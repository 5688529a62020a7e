import RezChat.Catchup.DrainRequest
import RezChat.Catchup.Quarantine
import RezChat.Events.Retry
import RezChat.Contacts.ConsentRuns
import RezChat.Devices.Lifecycle
import RezChat.Messages.Pending
import RezChat.Messages.Binding
import RezChat.Messages.Conflict
import RezChat.Devices.Release
import RezChat.Devices.Compensation
import RezChat.Devices.Exclusion
import RezChat.Devices.Authority
import RezChat.Devices.Roster
import RezChat.Delivery.Honesty
import RezChat.Delivery.Slots
import RezChat.Delivery.CommitAcks
import RezChat.Groups.Titles
import RezChat.Groups.Channels
import RezChat.Groups.SignedNames
import RezChat.PeerLinks.Limits
import RezChat.PeerLinks.Glare
import RezChat.Devices.Mutation
import RezChat.PeerLinks.AutoMinted
import RezChat.Devices.Publication
import RezChat.Desktop.ServerIdentity
import RezChat.Desktop.RoundTrip
import RezChat.Desktop.Purge
import RezChat.Desktop.EventPump
import RezChat.Devices.Lamports
import RezChat.Mobile.Lifecycle
import RezChat.Runtime.Exposure
import RezChat.Devices.CeremonyStates
import RezChat.Files.Transfer
import RezChat.Transport.BridgeClient
import RezChat.Transport.Uplink
import RezChat.Contacts.Profiles
import RezChat.Inbox.PortableInbox
import RezChat.Runtime.SessionBinding
import RezChat.Ui.UnreadMirror
import RezChat.Browser.Slots
import RezChat.Inbox.SiblingDeposits
import RezChat.Runtime.ServerLife
import RezChat.Browser.SessionStates
import RezChat.Inbox.Redrain
import RezChat.Delivery.Aggregation
import RezChat.Messages.Paging
import RezChat.Backup.Store
import RezChat.Host.StaticFiles
import RezChat.Links.SafeFetch
import RezChat.Groups.Lookup
import RezChat.Ui.Linkify
import RezChat.Records.Originals
import RezChat.Desktop.ControlFrames
import RezChat.Groups.Refusals
import RezChat.Records.Recoercion
