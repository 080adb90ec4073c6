import VirtHost.Cli.Command
import VirtHost.Cli.Config
import VirtHost.Cli.Grammar
import VirtHost.Cli.Run
import VirtHost.Command.Host
import VirtHost.Command.Install
import VirtHost.Connection
import VirtHost.Data.Connection
import VirtHost.Data.Document
import VirtHost.Data.Settings
import VirtHost.Data.Value
import VirtHost.Device
import VirtHost.Duration
import VirtHost.Error
import VirtHost.Host.Poll
import VirtHost.Host.Program
import VirtHost.Host.Request
import VirtHost.Host.Scripted
import VirtHost.Hypervisor.Basic
import VirtHost.Hypervisor.Controllers
import VirtHost.Hypervisor.Creation
import VirtHost.Hypervisor.Devices
import VirtHost.Hypervisor.Disk
import VirtHost.Hypervisor.Lifecycle
import VirtHost.Hypervisor.Mediated
import VirtHost.Hypervisor.Network
import VirtHost.Hypervisor.VirtualFunctions
import VirtHost.Ipv4
import VirtHost.Listing.Host
import VirtHost.Listing.Network
import VirtHost.Listing.VirtualFunction
import VirtHost.Listing.Vm
import VirtHost.Machine.Basic
import VirtHost.Machine.Files
import VirtHost.Machine.Script
import VirtHost.Machine.Shell
import VirtHost.Machine.Simulated
import VirtHost.Machine.Tool
import VirtHost.Main
import VirtHost.Pci
import VirtHost.Proofs.Cli.AllVms
import VirtHost.Proofs.Cli.CloneRequest
import VirtHost.Proofs.Cli.FunctionTarget
import VirtHost.Proofs.Cli.MediatedVm
import VirtHost.Proofs.Cli.Status
import VirtHost.Proofs.Command.Install
import VirtHost.Proofs.Host.Action
import VirtHost.Proofs.Host.Ensures
import VirtHost.Proofs.Host.Files
import VirtHost.Proofs.Host.InTurn
import VirtHost.Proofs.Host.Pauses
import VirtHost.Proofs.Host.Poll
import VirtHost.Proofs.Host.PollClock
import VirtHost.Proofs.Host.PollRounds
import VirtHost.Proofs.Host.Run
import VirtHost.Proofs.Host.Scripted
import VirtHost.Proofs.Host.ScriptedRules
import VirtHost.Proofs.Hypervisor.Batches
import VirtHost.Proofs.Hypervisor.CommandOptions
import VirtHost.Proofs.Hypervisor.ControllerAttempts
import VirtHost.Proofs.Hypervisor.ControllerRestart
import VirtHost.Proofs.Hypervisor.ControllerSlots
import VirtHost.Proofs.Hypervisor.Controllers
import VirtHost.Proofs.Hypervisor.CreatedNames
import VirtHost.Proofs.Hypervisor.Creation
import VirtHost.Proofs.Hypervisor.CreationOptions
import VirtHost.Proofs.Hypervisor.CreationRequests
import VirtHost.Proofs.Hypervisor.Detachment
import VirtHost.Proofs.Hypervisor.DeviceDriver
import VirtHost.Proofs.Hypervisor.DeviceOptions
import VirtHost.Proofs.Hypervisor.Devices
import VirtHost.Proofs.Hypervisor.Disk
import VirtHost.Proofs.Hypervisor.DiskCopy
import VirtHost.Proofs.Hypervisor.DiskPath
import VirtHost.Proofs.Hypervisor.Echo
import VirtHost.Proofs.Hypervisor.FreeData
import VirtHost.Proofs.Hypervisor.FunctionFiles
import VirtHost.Proofs.Hypervisor.FunctionOptions
import VirtHost.Proofs.Hypervisor.InOrder
import VirtHost.Proofs.Hypervisor.Lifecycle
import VirtHost.Proofs.Hypervisor.ListedFunctions
import VirtHost.Proofs.Hypervisor.MacLookup
import VirtHost.Proofs.Hypervisor.NetworkOptions
import VirtHost.Proofs.Hypervisor.PollingBound
import VirtHost.Proofs.Hypervisor.ReportedState
import VirtHost.Proofs.Hypervisor.Session
import VirtHost.Proofs.Hypervisor.Sweeps
import VirtHost.Proofs.Hypervisor.VirtualFunctionCount
import VirtHost.Proofs.Hypervisor.VirtualFunctionLookup
import VirtHost.Proofs.Hypervisor.VirtualFunctionWrites
import VirtHost.Proofs.Hypervisor.VmOptions
import VirtHost.Proofs.Ipv4
import VirtHost.Proofs.Listing.GuestAddresses
import VirtHost.Proofs.Listing.LinkLines
import VirtHost.Proofs.Listing.LinkTarget
import VirtHost.Proofs.Listing.Links
import VirtHost.Proofs.Listing.Mac
import VirtHost.Proofs.Listing.NetworkData
import VirtHost.Proofs.Listing.Rows
import VirtHost.Proofs.Listing.Table
import VirtHost.Proofs.Listing.VirtualFunction
import VirtHost.Proofs.Pci
import VirtHost.Proofs.Pci.Forms
import VirtHost.Proofs.Pci.Grammar
import VirtHost.Proofs.Pci.Outcome
import VirtHost.Proofs.RamPolicy
import VirtHost.Proofs.Shell.Bare
import VirtHost.Proofs.Template
import VirtHost.Proofs.Template.OnePass
import VirtHost.Proofs.Text.Denotation
import VirtHost.Proofs.Text.LowerCase
import VirtHost.Proofs.Text.Numeral
import VirtHost.Proofs.Text.Scan
import VirtHost.Proofs.Text.Shortest
import VirtHost.Proofs.Text.Words
import VirtHost.Proofs.Virsh
import VirtHost.Proofs.Virsh.AgentAddress
import VirtHost.Proofs.Xml.BuiltIn
import VirtHost.Proofs.Xml.Devices
import VirtHost.Proofs.Xml.Escape
import VirtHost.Proofs.Xml.Mark
import VirtHost.Proofs.Xml.Outermost
import VirtHost.Proofs.Xml.Position
import VirtHost.Proofs.Xml.Printed
import VirtHost.Proofs.Xml.Tag
import VirtHost.Settings
import VirtHost.Shell.Quoting
import VirtHost.Shell.Words
import VirtHost.Template
import VirtHost.Text.Blank
import VirtHost.Text.CharacterClass
import VirtHost.Text.LetterCase
import VirtHost.Text.LowerCase
import VirtHost.Text.Numeral
import VirtHost.Text.Scan
import VirtHost.Text.Utf8
import VirtHost.Virsh
import VirtHost.Vm.Parameters
import VirtHost.Vm.State
import VirtHost.Xml.Attribute
import VirtHost.Xml.Document
import VirtHost.Xml.Domain
import VirtHost.Xml.Node
import VirtHost.Xml.Token
import VirtHost.Yaml.Block
import VirtHost.Yaml.Plain
import VirtHost.Yaml.Printer
import VirtHost.Yaml.Quoted
import VirtHost.Yaml.Reader
import VirtHost.Yaml.Style
