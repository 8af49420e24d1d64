import BrowserRelay.Session.Serving
import BrowserRelay.Shell.Services

/-!
# Sessions with small programs

The services of these sessions are shell scripts and small programs.
-/

namespace BrowserRelay

namespace ServiceProcess

def launchRefusal? (store : FileStore) (launch : LaunchRequest) : Option Failure :=
  Shell.programs.launchRefusal? store launch

def start (store : FileStore) (launch : LaunchRequest) (generation moment : Nat) :
    ServiceProcess :=
  Shell.programs.start store launch generation moment

end ServiceProcess

def Session.execute (arguments : List String) (input : List UInt8) (startedAt : Nat)
    (store : FileStore) : Session.Outcome :=
  Session.executeOn Shell.programs arguments input startedAt store

end BrowserRelay
