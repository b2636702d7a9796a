import Switchboard.Main
import Switchboard.Event
import Switchboard.Proofs.OrderedMap
import Switchboard.Proofs.Diagram.Lookup
import Switchboard.Proofs.Diagram.Indexing
import Switchboard.Proofs.Diagram.Turns
import Switchboard.Proofs.Diagram.Search
import Switchboard.Proofs.Diagram.FirstPath
import Switchboard.Proofs.Diagram.Entry
import Switchboard.Proofs.Diagram.Untagged
import Switchboard.Proofs.Flow.Transitions
import Switchboard.Proofs.Flow.Assembly
import Switchboard.Proofs.Flow.Walk
import Switchboard.Proofs.Flow.Agreement
import Switchboard.Proofs.Menu.Way
import Switchboard.Proofs.Dialplan.Reading
import Switchboard.Proofs.Job.Selection
import Switchboard.Proofs.Job.EdgeOrder
import Switchboard.Proofs.Job.StaleEdges
import Switchboard.Proofs.Diagram.Renaming
import Switchboard.Proofs.Flow.Renaming
import Switchboard.Proofs.Menu.Renaming
import Switchboard.Proofs.Job.Renaming
import Switchboard.Proofs.Job.NodeOrder
import Switchboard.Proofs.Menu.Destination
import Switchboard.Proofs.Job.MenuRows
import Switchboard.Proofs.Job.Flattening
import Switchboard.Proofs.Json.Sorted
import Switchboard.Proofs.Flow.Serialization
import Switchboard.Proofs.Dialplan.Comments
import Switchboard.Proofs.Dialplan.Keys
import Switchboard.Proofs.Dialplan.Characters
import Switchboard.Proofs.Dialplan.LineEnds
import Switchboard.Proofs.Job.Characters
import Switchboard.Proofs.Job.EmptyFields
import Switchboard.Proofs.Job.Retagging
import Switchboard.Proofs.Dialplan.Expression
import Switchboard.Proofs.Number.Text
import Switchboard.Proofs.Menu.Rows
import Switchboard.Proofs.Menu.Digits
import Switchboard.Proofs.Menu.Greeting
import Switchboard.Proofs.Text.Blank
import Switchboard.Proofs.Number.Nearest
import Switchboard.Proofs.Number.Numeral
import Switchboard.Proofs.Diagram.Counts
import Switchboard.Proofs.Diagram.UniqueIds
import Switchboard.Proofs.Menu.WayBack
import Switchboard.Proofs.Job.FaultyEntries
import Switchboard.Proofs.Job.Counts
