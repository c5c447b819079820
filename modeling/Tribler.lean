import Tribler.Json
import Tribler.Config.Manager
import Tribler.Config.IPv8Defaults
import Tribler.Config.Laws
import Tribler.Process
import Tribler.Session.Init
import Tribler.Session.Lifecycle
import Tribler.Session.Interfaces
import Tribler.Gui.FeedbackDialog
import Tribler.Start.FileSystem
import Tribler.Start.Main
