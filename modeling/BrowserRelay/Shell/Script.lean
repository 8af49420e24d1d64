import BrowserRelay.Shell.Token

/-!
# Reading shell scripts

Commands are put together from the tokens of a script.  A word is a keyword only
where a command may start and only if no part of it is quoted.
-/

namespace BrowserRelay.Shell

/-- The text of a word without quotes and expansions. -/
def Word.bareText? : Word → Option String
  | [.plain text] => some (String.ofList text)
  | _ => none

/-- Whether a command gives the script over to what it names.  Its redirections are
those of the script from then on. -/
def Command.takesOver : Command → Bool
  | .simple _ (word :: _) => word.bareText? = some "exec"
  | _ => false

def Word.assignment? : Word → Option (ByteText × Word)
  | .plain text :: parts =>
      let name := text.takeWhile isNameCharacter
      match name, text.dropWhile isNameCharacter with
      | first :: _, '=' :: rest =>
          if isNameStart first then
            some (name, if rest.isEmpty then parts else .plain rest :: parts)
          else none
      | _, _ => none
  | _ => none

def nextKeyword? : List Token → Option String
  | .word word :: _ => word.bareText?
  | _ => none

def skipLineEnds : List Token → List Token
  | .operator "\n" :: rest => skipLineEnds rest
  | tokens => tokens

def takeKeyword (keyword : String) : List Token → Option (List Token)
  | .word word :: rest => if word.bareText? = some keyword then some rest else none
  | _ => none

def endsList : List Token → Bool
  | [] => true
  | .operator operator :: _ => operator = ")" || operator = ";;"
  | .word word :: _ =>
      match word.bareText? with
      | some keyword =>
          keyword ∈ ["then", "else", "elif", "fi", "do", "done", "esac", "\x7d"]
      | none => false
  | .redirection .. :: _ => false

def takeRedirections : List Token → Option (List Redirection × List Token)
  | .redirection stream kind :: .word target :: rest =>
      match takeRedirections rest with
      | none => none
      | some (others, rest) => some (⟨stream, kind, target⟩ :: others, rest)
  | .redirection .. :: _ => none
  | tokens => some ([], tokens)

def Command.withRedirections (command : Command) : List Redirection → Command
  | [] => command
  | redirections => .redirected command redirections

/-- Take the words, assignments and redirections of a simple command, each kept in
reverse. -/
def takeSimple (assignments : List (ByteText × Word)) (words : List Word)
    (redirections : List Redirection) : List Token → Option (Command × List Token)
  | .redirection stream kind :: .word target :: rest =>
      takeSimple assignments words (⟨stream, kind, target⟩ :: redirections) rest
  | .redirection .. :: _ => none
  | .word word :: rest =>
      match words, word.assignment? with
      | [], some assignment => takeSimple (assignment :: assignments) words redirections rest
      | words, _ => takeSimple assignments (word :: words) redirections rest
  | tokens =>
      if assignments.isEmpty && words.isEmpty && redirections.isEmpty then none
      else
        some ((Command.simple assignments.reverse words.reverse).withRedirections
          redirections.reverse, tokens)

def takeItems : List Token → List Word × List Token
  | .word word :: rest =>
      let (words, rest) := takeItems rest
      (word :: words, rest)
  | tokens => ([], tokens)

/-- Take the patterns of a branch up to its parenthesis. -/
def takePatterns : List Token → Option (List Word × List Token)
  | .word word :: .operator "|" :: rest =>
      match takePatterns rest with
      | none => none
      | some (words, rest) => some (word :: words, rest)
  | .word word :: .operator ")" :: rest => some ([word], rest)
  | _ => none

mutual

def readList : (fuel : Nat) → List Token → Option (Command × List Token)
  | 0, _ => none
  | fuel + 1, tokens =>
      match skipLineEnds tokens with
      | tokens =>
          if endsList tokens then some (.nothing, tokens)
          else
            match readAndOr fuel tokens with
            | none => none
            | some (first, rest) =>
                let more (first : Command) (rest : List Token) :=
                  match readList fuel rest with
                  | none => none
                  | some (.nothing, rest) => some (first, rest)
                  | some (others, rest) => some (.sequence first others, rest)
                match rest with
                | .operator ";" :: rest => more first rest
                | .operator "\n" :: rest => more first rest
                | .operator "&" :: rest => more (.background first) rest
                | rest => if endsList rest then some (first, rest) else none

/-- Read commands that are joined by their success or failure. -/
def readAndOr : (fuel : Nat) → List Token → Option (Command × List Token)
  | 0, _ => none
  | fuel + 1, tokens =>
      match readPipeline fuel tokens with
      | none => none
      | some (first, rest) => readAndOrBehind fuel first rest

/-- Read what is joined to a command by success or failure. -/
def readAndOrBehind : (fuel : Nat) → Command → List Token → Option (Command × List Token)
  | 0, _, _ => none
  | fuel + 1, first, tokens =>
      match tokens with
      | .operator "&&" :: rest =>
          match readPipeline fuel (skipLineEnds rest) with
          | none => none
          | some (second, rest) => readAndOrBehind fuel (.both first second) rest
      | .operator "||" :: rest =>
          match readPipeline fuel (skipLineEnds rest) with
          | none => none
          | some (second, rest) => readAndOrBehind fuel (.either first second) rest
      | tokens => some (first, tokens)

/-- Read commands of which each reads what the one before writes. -/
def readPipeline : (fuel : Nat) → List Token → Option (Command × List Token)
  | 0, _ => none
  | fuel + 1, tokens =>
      match takeKeyword "!" tokens with
      | some rest =>
          match readPipeline fuel rest with
          | none => none
          | some (command, rest) => some (.negated command, rest)
      | none =>
          match readCommand fuel tokens with
          | none => none
          | some (first, .operator "|" :: rest) =>
              match readPipeline fuel (skipLineEnds rest) with
              | none => none
              | some (second, rest) => some (.pipeline first second, rest)
          | some (command, rest) => some (command, rest)

def readCommand : (fuel : Nat) → List Token → Option (Command × List Token)
  | 0, _ => none
  | fuel + 1, tokens =>
      match tokens with
      | .operator "(" :: rest =>
          match readList fuel rest with
          | some (body, .operator ")" :: rest) => withRedirections (.subshell body) rest
          | _ => none
      | .word word :: rest =>
          match word.bareText?, rest with
          | some name, .operator "(" :: .operator ")" :: rest =>
              match readCommand fuel (skipLineEnds rest) with
              | none => none
              | some (body, rest) => some (.define name.toList body, rest)
          | some "\x7b", rest =>
              match readList fuel rest with
              | none => none
              | some (body, rest) =>
                  (takeKeyword "\x7d" rest).bind (withRedirections body)
          | some "if", rest => (readConditional fuel rest).bind fun (c, r) => withRedirections c r
          | some "while", rest =>
              (readLoop fuel false rest).bind fun (c, r) => withRedirections c r
          | some "until", rest =>
              (readLoop fuel true rest).bind fun (c, r) => withRedirections c r
          | some "for", rest => (readForEach fuel rest).bind fun (c, r) => withRedirections c r
          | some "case", .word subject :: rest =>
              match takeKeyword "in" (skipLineEnds rest) with
              | none => none
              | some rest =>
                  match readBranches fuel [] rest with
                  | none => none
                  | some (branches, rest) => withRedirections (.choose subject branches) rest
          | _, _ => takeSimple [] [] [] tokens
      | tokens => takeSimple [] [] [] tokens
where
  /-- Take the redirections behind a command. -/
  withRedirections (command : Command) (tokens : List Token) : Option (Command × List Token) :=
    match takeRedirections tokens with
    | none => none
    | some (redirections, rest) => some (command.withRedirections redirections, rest)

def readConditional : (fuel : Nat) → List Token → Option (Command × List Token)
  | 0, _ => none
  | fuel + 1, tokens => do
      let (test, rest) ← readList fuel tokens
      let rest ← takeKeyword "then" rest
      let (consequent, rest) ← readList fuel rest
      match nextKeyword? rest with
      | some "elif" =>
          let (alternative, rest) ← readConditional fuel rest.tail
          some (.conditional test consequent alternative, rest)
      | some "else" =>
          let (alternative, rest) ← readList fuel rest.tail
          let rest ← takeKeyword "fi" rest
          some (.conditional test consequent alternative, rest)
      | _ =>
          let rest ← takeKeyword "fi" rest
          some (.conditional test consequent .nothing, rest)

def readLoop : (fuel : Nat) → (whileFails : Bool) → List Token → Option (Command × List Token)
  | 0, _, _ => none
  | fuel + 1, whileFails, tokens => do
      let (test, rest) ← readList fuel tokens
      let rest ← takeKeyword "do" rest
      let (body, rest) ← readList fuel rest
      let rest ← takeKeyword "done" rest
      some (.loop whileFails test body, rest)

def readForEach : (fuel : Nat) → List Token → Option (Command × List Token)
  | 0, _ => none
  | fuel + 1, tokens => do
      match tokens with
      | .word name :: rest =>
          let name ← name.bareText?
          let (items, rest) :=
            match takeKeyword "in" (skipLineEnds rest) with
            | some rest => let (words, rest) := takeItems rest; (some words, rest)
            | none => (none, rest)
          let rest :=
            match rest with
            | .operator ";" :: rest => skipLineEnds rest
            | rest => skipLineEnds rest
          let rest ← takeKeyword "do" rest
          let (body, rest) ← readList fuel rest
          let rest ← takeKeyword "done" rest
          some (.forEach name.toList items body, rest)
      | _ => none

/-- Read the branches of a choice; those read so far are kept in reverse. -/
def readBranches : (fuel : Nat) → List (List Word × Command) → List Token →
    Option (List (List Word × Command) × List Token)
  | 0, _, _ => none
  | fuel + 1, branches, tokens => do
      let tokens := skipLineEnds tokens
      if nextKeyword? tokens = some "esac" then some (branches.reverse, tokens.tail)
      else
        let tokens :=
          match tokens with
          | .operator "(" :: rest => rest
          | tokens => tokens
        let (patterns, rest) ← takePatterns tokens
        let (body, rest) ← readList fuel rest
        let branches := (patterns, body) :: branches
        match skipLineEnds rest with
        | .operator ";;" :: rest => readBranches fuel branches rest
        | rest =>
            let rest ← takeKeyword "esac" rest
            some (branches.reverse, rest)

end

def parseScript (script : ByteText) : Option Command :=
  match tokensOf script with
  | none => none
  | some tokens =>
      match readList (8 * tokens.length + 8) tokens with
      | some (command, []) => some command
      | _ => none

end BrowserRelay.Shell
