import AcceleratorTopology.Traced
import AcceleratorTopology.Text.Field
import AcceleratorTopology.Text.Numeral
import AcceleratorTopology.Text.Quoted
import AcceleratorTopology.Binary32
import AcceleratorTopology.Pci.Address
import AcceleratorTopology.Vendor.ResultCode
import AcceleratorTopology.Vendor.Fault
import AcceleratorTopology.Vendor.Record
import AcceleratorTopology.Vendor.Query
import AcceleratorTopology.Library.Answers
import AcceleratorTopology.Topology.Search
import AcceleratorTopology.Topology.Outline
import AcceleratorTopology.Settings.Configuration
import AcceleratorTopology.Device.Profile
import AcceleratorTopology.Device.QueueGroups
import AcceleratorTopology.Event.Recording
import AcceleratorTopology.Device.Drafts
import AcceleratorTopology.Device.Description
import AcceleratorTopology.Device.Drafting
import AcceleratorTopology.Device.Handover
import AcceleratorTopology.Discovery.Environment
import AcceleratorTopology.Files.FileTree
import AcceleratorTopology.Scan.Basic
import AcceleratorTopology.Proofs.Trail
import AcceleratorTopology.Proofs.Events
import AcceleratorTopology.Proofs.Warnings
import AcceleratorTopology.Proofs.CallOrder
import AcceleratorTopology.Proofs.Device.Drafting
import AcceleratorTopology.Proofs.Device.CallOrder
import AcceleratorTopology.Proofs.Device.Queries
import AcceleratorTopology.Proofs.Device.MemoryCalls
import AcceleratorTopology.Proofs.Device.Contents
import AcceleratorTopology.Proofs.Device.Warnings
import AcceleratorTopology.Proofs.Discovery.Visits
import AcceleratorTopology.Proofs.Discovery.Warnings
import AcceleratorTopology.Proofs.Discovery.SharedChoice
import AcceleratorTopology.Proofs.Discovery.Preference
import AcceleratorTopology.Proofs.Discovery.Numbering
import AcceleratorTopology.Proofs.Discovery.Names
import AcceleratorTopology.Proofs.Discovery.CallOrder
import AcceleratorTopology.Proofs.Discovery.Growth
import AcceleratorTopology.Proofs.Device.Agreement
import AcceleratorTopology.Proofs.Discovery.EmptyLists
import AcceleratorTopology.Proofs.Discovery.Homes
import AcceleratorTopology.Proofs.Discovery.Isolation
import AcceleratorTopology.Proofs.Topology.Edits
import AcceleratorTopology.Proofs.Topology.Search
import AcceleratorTopology.Proofs.History
import AcceleratorTopology.Proofs.Lookup
import AcceleratorTopology.Proofs.Discovery.LinkSpeeds
import AcceleratorTopology.Proofs.Discovery.Switch
import AcceleratorTopology.Proofs.Files.RealPaths
import AcceleratorTopology.Proofs.Scan.Entries
import AcceleratorTopology.Proofs.Scan.Order
import AcceleratorTopology.Proofs.Scan.Additions
import AcceleratorTopology.Proofs.Scan.Nesting
import AcceleratorTopology.Proofs.Scan.Buses
import AcceleratorTopology.Proofs.Scan.Lookup
import AcceleratorTopology.Proofs.Library.Holding
import AcceleratorTopology.Proofs.Library.Serving
import AcceleratorTopology.Proofs.Emission
import AcceleratorTopology.Proofs.Device.Wording
import AcceleratorTopology.Proofs.Discovery.Settings
import AcceleratorTopology.Proofs.Device.Notes
import AcceleratorTopology.Proofs.Discovery.Notes
import AcceleratorTopology.Proofs.Device.Identity
import AcceleratorTopology.Proofs.Discovery.Identity
import AcceleratorTopology.Proofs.Topology.Outline
import AcceleratorTopology.Proofs.Device.ModuleSizes
import AcceleratorTopology.Proofs.Device.PartSizes
import AcceleratorTopology.Proofs.Discovery.Sizes
import AcceleratorTopology.Proofs.Pci.WrittenForms
import AcceleratorTopology.Proofs.Device.CoreSizes
import AcceleratorTopology.Proofs.Library.TwoPhase
import AcceleratorTopology.Proofs.Text.Field
import AcceleratorTopology.Proofs.Text.LeadingInteger
import AcceleratorTopology.Proofs.Settings.Numbers
import AcceleratorTopology.Proofs.Topology.ForeignIds
import AcceleratorTopology.Scan.InPlace
import AcceleratorTopology.Proofs.Scan.Frame
import AcceleratorTopology.Proofs.Text.StrictUtf8
import AcceleratorTopology.Proofs.Scan.PropertyText
import AcceleratorTopology.Proofs.Scan.Properties
import AcceleratorTopology.Proofs.Device.QueueGroups
import AcceleratorTopology.Proofs.Recording
