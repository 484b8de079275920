import Multipath.Text.Blank
import Multipath.Text.Pieces
import Multipath.Text.Numeral
import Multipath.Text.Unprintable
import Multipath.Text.Quoted
import Multipath.Word
import Multipath.Json.Token
import Multipath.Json.Value
import Multipath.Json.Reader
import Multipath.Config.Basic
import Multipath.Config.Codec
import Multipath.Config.Reading
import Multipath.Graph.NodeSet
import Multipath.Graph.Basic
import Multipath.Topology.Properties
import Multipath.Topology.Blueprint
import Multipath.Topology.Basic
import Multipath.FatTree
import Multipath.Link.Address
import Multipath.Link.Table
import Multipath.Link.PairMap
import Multipath.Link.Interfaces
import Multipath.Link.Addresses
import Multipath.Flow.Basic
import Multipath.Flow.Murmur
import Multipath.Flow.Hash
import Multipath.Route.Error
import Multipath.Route.Distances
import Multipath.Route.NextHops
import Multipath.Route.Router
import Multipath.Trace.Options
import Multipath.Trace.Error
import Multipath.Trace.Tally
import Multipath.Trace.Setup
import Multipath.Trace.Report
import Multipath.Main
import Multipath.Proofs.Checked
import Multipath.Proofs.Graph.Drawn
import Multipath.Proofs.Graph.InnerNodes
import Multipath.Proofs.Route.HopDistances
import Multipath.Proofs.Graph.FarEnds
import Multipath.Proofs.Route.NextHopLists
import Multipath.Proofs.Route.ShortestPaths
import Multipath.Proofs.Route.EqualTables
import Multipath.Proofs.Link.Entries
import Multipath.Proofs.Link.Installed
import Multipath.Proofs.Link.Lookup
import Multipath.Proofs.Route.Decisions
import Multipath.Proofs.Route.Forwarding
import Multipath.Proofs.Route.Paths
import Multipath.Proofs.Route.ForeignLinks
import Multipath.Proofs.Topology.Roles
import Multipath.Proofs.Topology.Accepted
import Multipath.Proofs.Topology.EdgeStores
import Multipath.Proofs.Topology.Consistent
import Multipath.Proofs.Topology.Rearranged
import Multipath.Proofs.Text.Rejoined
import Multipath.Proofs.Topology.Files
import Multipath.Proofs.Topology.Rendered
import Multipath.Proofs.Topology.Edges
import Multipath.Proofs.Topology.Respelled
import Multipath.Proofs.FatTree.Places
import Multipath.Proofs.FatTree.Wiring
import Multipath.Proofs.FatTree.Neighbors
import Multipath.Proofs.FatTree.NextHops
import Multipath.Proofs.FatTree.Routes
import Multipath.Proofs.Link.Assigned
import Multipath.Proofs.Route.Headers
import Multipath.Proofs.Route.InPlace
import Multipath.Proofs.Route.LeastDistances
import Multipath.Proofs.Route.ForeignDistances
import Multipath.Proofs.Link.Numbered
import Multipath.Proofs.Link.Ports
import Multipath.Proofs.Link.Plans
import Multipath.Proofs.Config.Limits
import Multipath.Proofs.Trace.Flows
import Multipath.Proofs.Trace.Tallies
import Multipath.Proofs.Trace.Spread
import Multipath.Proofs.Trace.Setups
import Multipath.Proofs.Trace.Outcomes
import Multipath.Proofs.Flow.Mixing
import Multipath.Proofs.Flow.Keys
import Multipath.Proofs.Flow.Buffers
import Multipath.Proofs.Route.AlikeFlows
import Multipath.Proofs.Route.Seeds
import Multipath.Proofs.Route.ForeignRouters
import Multipath.Proofs.FatTree.Numbering
import Multipath.Proofs.Trace.FatTrees
import Multipath.Proofs.Graph.Refused
import Multipath.Proofs.Text.Lined
import Multipath.Proofs.Text.Trimmed
import Multipath.Proofs.Topology.Faults
import Multipath.Proofs.Topology.Rejected
import Multipath.Proofs.Topology.JoinedFiles
import Multipath.Proofs.Link.Pairs
import Multipath.Proofs.Route.States
import Multipath.Proofs.Text.Numerals
import Multipath.Proofs.Topology.Sets
import Multipath.Proofs.Json.Tokens
import Multipath.Proofs.Json.Objects
import Multipath.Proofs.Config.Codecs
import Multipath.Proofs.Config.Settings
