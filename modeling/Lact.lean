import Lact.Data
import Lact.World
import Lact.Controller
import Lact.Load
import Lact.Daemon
import Lact.Reconcile
import Lact.Dispatch
import Lact.Shutdown
import Lact.Run
import Lact.Outcome
import Lact.Restart
import Lact.Live
import Lact.Listen
import Lact.Resume
import Lact.Stray
import Lact.Reply
import Lact.Failure
import Lact.Isolation
import Lact.Answers
import Lact.Calls
import Lact.Spawn
