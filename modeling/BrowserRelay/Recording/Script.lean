import BrowserRelay.Json.Printer
import BrowserRelay.Recording.ReplayStep
import BrowserRelay.Relay.Launch

/-!
# Replay scripts

A replay script is a program of its own that starts the same service with the same
command line and performs the recorded actions over its standard streams.  Every
value from outside stands in it as compact JSON, which is an expression of the
script's language and never reaches beyond its line.
-/

namespace BrowserRelay.Script

/-- How long a call may take in a replay, in milliseconds. -/
def callTimeout : Nat := 30000

def literal (value : Json) : String := value.compact

/-- The lines from the start of the program to the first step: they start the
service, pair responses with calls and initialize the session. -/
def prelude : List String :=
  ["async function run() \x7b",
    "  const service = spawn(SERVICE_COMMAND, SERVICE_ARGS, \x7b",
    "    stdio: ['pipe', 'pipe', 'inherit'],",
    "    shell: process.platform === 'win32',",
    "  \x7d);",
    "  const waiting = new Map();",
    "  let buffered = '';",
    "  let nextId = 1;",
    "",
    "  service.stdout.on('data', (chunk) => \x7b",
    "    buffered += chunk.toString();",
    "    let newline;",
    "    while ((newline = buffered.indexOf('\\n')) >= 0) \x7b",
    "      const line = buffered.slice(0, newline).trim();",
    "      buffered = buffered.slice(newline + 1);",
    "      if (!line) continue;",
    "      let message;",
    "      try \x7b",
    "        message = JSON.parse(line);",
    "      \x7d catch (err) \x7b",
    "        continue;",
    "      \x7d",
    "      const entry = waiting.get(message.id);",
    "      if (!entry) continue;",
    "      waiting.delete(message.id);",
    "      clearTimeout(entry.timer);",
    "      if (message.error) \x7b",
    "        entry.reject(new Error(message.error.message));",
    "      \x7d else \x7b",
    "        entry.resolve(message.result);",
    "      \x7d",
    "    \x7d",
    "  \x7d);",
    "",
    "  const call = (method, params) =>",
    "    new Promise((resolve, reject) => \x7b",
    "      const id = `replay_$\x7bnextId++\x7d`;",
    "      const timer = setTimeout(() => \x7b",
    "        waiting.delete(id);",
    "        reject(new Error(`$\x7bmethod\x7d timed out`));",
    "      \x7d, CALL_TIMEOUT_MS);",
    "      waiting.set(id, \x7b resolve, reject, timer \x7d);",
    "      service.stdin.write(JSON.stringify(\x7b jsonrpc: '2.0', id, method, params \x7d) + '\\n');",
    "    \x7d);",
    "  const pause = (ms) => new Promise((resolve) => setTimeout(resolve, ms));",
    "",
    "  try \x7b",
    "    await call('initialize', \x7b",
    "      protocolVersion: '2024-11-05',",
    "      clientInfo: \x7b name: 'scriptgen-replay', version: '0.1.0' \x7d,",
    "      capabilities: \x7b\x7d,",
    "    \x7d);"]

def epilogue : List String :=
  ["    console.log('replay finished');",
    "  \x7d catch (err) \x7b",
    "    console.error('replay failed:', err.message);",
    "    process.exitCode = 1;",
    "  \x7d finally \x7b",
    "    service.kill();",
    "  \x7d",
    "\x7d",
    "",
    "run();"]

/-- The lines before the prelude, which name the page and the service. -/
def header (launch : LaunchRequest) (pageUrl : String) : List String :=
  ["// Replay script generated by scriptgen.",
    "// Page when generated: " ++ literal (.string pageUrl),
    "const \x7b spawn \x7d = require('child_process');",
    "",
    "const SERVICE_COMMAND = " ++ literal (.string launch.program) ++ ";",
    "const SERVICE_ARGS = " ++ literal (.ofStrings launch.arguments) ++ ";",
    "const CALL_TIMEOUT_MS = " ++ toString callTimeout ++ ";",
    ""]

def onOneLine (text : String) : String :=
  String.ofList (text.toList.map fun character => if character = '\n' then ' ' else character)

def stepLines : ReplayStep → List String
  | .call method params =>
      ["    await call(" ++ literal (.string method) ++ ", " ++ literal params ++ ");",
        "    console.log(" ++ literal (.string ("done: " ++ method)) ++ ");"]
  | .pause milliseconds => ["    await pause(" ++ toString milliseconds ++ ");"]
  | .skipped reason => ["    // skipped: " ++ onOneLine reason]

def lines (launch : LaunchRequest) (pageUrl : String) (actions : List RecordedAction) :
    List String :=
  header launch pageUrl ++ prelude ++
    actions.flatMap (fun action => stepLines action.replayStep) ++ epilogue

def render (launch : LaunchRequest) (pageUrl : String) (actions : List RecordedAction) :
    String :=
  "\n".intercalate (lines launch pageUrl actions) ++ "\n"

end BrowserRelay.Script
