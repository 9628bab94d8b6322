import Qemuctl.Go.Strings
import Qemuctl.Go.Json
import Qemuctl.Go.JsonDecode
import Qemuctl.Go.Path
import Qemuctl.Config
import Qemuctl.Arg
import Qemuctl.Pci
import Qemuctl.Options
import Qemuctl.Disk
import Qemuctl.Network
import Qemuctl.Builder
import Qemuctl.BuildArgs
import Qemuctl.SlotMap
import Qemuctl.Panics
import Qemuctl.OptionSyntax
import Qemuctl.Payloads
import Qemuctl.LaunchPaths
import Qemuctl.Refs
import Qemuctl.Identifiers
import Qemuctl.ConfigHelpers
import Qemuctl.Display
import Qemuctl.Attach
import Qemuctl.State
import Qemuctl.Qmp.Wire
import Qemuctl.Qmp.Transport
import Qemuctl.Qmp.Correlation
import Qemuctl.Qmp.Select
import Qemuctl.Qmp.Handshake
import Qemuctl.Qmp.EventStream
import Qemuctl.Qmp.Drain
import Qemuctl.Instance.Model
import Qemuctl.Instance.Invariant
import Qemuctl.Instance.Shutdown
import Qemuctl.Instance.Process
import Qemuctl.Instance.Observer
import Qemuctl.Instance.Events
import Qemuctl.Instance.Launch
