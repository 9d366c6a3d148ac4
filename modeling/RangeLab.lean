import RangeLab.CommandLine
import RangeLab.Main
import RangeLab.Proofs.Acceptance
import RangeLab.Proofs.Additions
import RangeLab.Proofs.AddressPlan
import RangeLab.Proofs.Addresses
import RangeLab.Proofs.Answers
import RangeLab.Proofs.Attempt
import RangeLab.Proofs.DistinctNames
import RangeLab.Proofs.Exclusion
import RangeLab.Proofs.Filters
import RangeLab.Proofs.Growth
import RangeLab.Proofs.Guest
import RangeLab.Proofs.Interfaces
import RangeLab.Proofs.Inventory
import RangeLab.Proofs.Machines
import RangeLab.Proofs.Members
import RangeLab.Proofs.Name
import RangeLab.Proofs.Numeral
import RangeLab.Proofs.Record
import RangeLab.Proofs.RoleKind
import RangeLab.Proofs.Selection
import RangeLab.Proofs.Service
import RangeLab.Proofs.Table
import RangeLab.Proofs.Tightness
import RangeLab.Proofs.Topology
import RangeLab.Proofs.Enumeration
import RangeLab.Proofs.Partition
import RangeLab.Proofs.Faults
import RangeLab.Proofs.Editions
import RangeLab.Proofs.Spelling
import RangeLab.Proofs.Sharing
import RangeLab.Proofs.Narrowing
import RangeLab.Proofs.AllRoles
import RangeLab.Proofs.Seating
import RangeLab.Proofs.Membership
import RangeLab.Proofs.Lookup
import RangeLab.Proofs.Hosts
import RangeLab.Proofs.BlockText
import RangeLab.Proofs.Ipv6
import RangeLab.Proofs.RootBlock
import RangeLab.Proofs.FirstFault
import RangeLab.Proofs.Documents
import RangeLab.Proofs.Settings
import RangeLab.Proofs.Items
import RangeLab.Proofs.Requests
