import CreationCommit.Identity
import CreationCommit.PeerMap
import CreationCommit.Clock
import CreationCommit.Decimal
import CreationCommit.Text.Blank
import CreationCommit.Text.Graphic
import CreationCommit.Text.Quoted
import CreationCommit.Json.Numeral
import CreationCommit.Json.Quoted
import CreationCommit.Json.Token
import CreationCommit.Json.Value
import CreationCommit.Json.Printer
import CreationCommit.Json.Record
import CreationCommit.Json.Storable
import CreationCommit.Failure
import CreationCommit.Phase
import CreationCommit.Tally
import CreationCommit.Numbering
import CreationCommit.Membership
import CreationCommit.Message.Basic
import CreationCommit.Message.Format
import CreationCommit.Delivery
import CreationCommit.Settings.Basic
import CreationCommit.Settings.Format
import CreationCommit.Settings.Loading
import CreationCommit.Folder
import CreationCommit.Problem
import CreationCommit.Party.Basic
import CreationCommit.Party.Conduct
import CreationCommit.Action
import CreationCommit.Station
import CreationCommit.Session
import CreationCommit.Timeline
import CreationCommit.Rehearsal
import CreationCommit.CommandLine.Arguments
import CreationCommit.CommandLine.Output
import CreationCommit.CommandLine.Run
import CreationCommit.Main
import CreationCommit.Proofs.TallyOperations
import CreationCommit.Proofs.TallyInvariant
import CreationCommit.Proofs.Looks
import CreationCommit.Proofs.PrimaryLooks
import CreationCommit.Proofs.ReplicaLooks
import CreationCommit.Proofs.SessionSteps
import CreationCommit.Proofs.Sites
import CreationCommit.Proofs.SiteInvariants
import CreationCommit.Proofs.Network
import CreationCommit.Proofs.Mail
import CreationCommit.Proofs.AtomicCommitment
import CreationCommit.Proofs.Reliable
import CreationCommit.Proofs.CommitDelivery
import CreationCommit.Proofs.Lanes
import CreationCommit.Proofs.Orphans
import CreationCommit.Proofs.History
import CreationCommit.Proofs.Deeds
import CreationCommit.Proofs.Finalization
import CreationCommit.Proofs.VoteLooks
import CreationCommit.Proofs.VoteHistory
import CreationCommit.Proofs.Decisiveness
import CreationCommit.Proofs.Wakeups
import CreationCommit.Proofs.Outcomes
import CreationCommit.Proofs.Notices
import CreationCommit.Proofs.Broadcasts
import CreationCommit.Proofs.ReplicaHistory
import CreationCommit.Proofs.Requests
import CreationCommit.Proofs.Admissions
import CreationCommit.Proofs.PeerListings
import CreationCommit.Proofs.RehearsalMail
import CreationCommit.Proofs.Tidings
import CreationCommit.Proofs.VoteOrder
import CreationCommit.Proofs.RehearsalCast
import CreationCommit.Proofs.RehearsalScene
import CreationCommit.Proofs.RehearsalCourse
import CreationCommit.Proofs.RehearsalSchedule
import CreationCommit.Proofs.RehearsalOpening
import CreationCommit.Proofs.RehearsalOutcome
import CreationCommit.Proofs.JsonSpellings
import CreationCommit.Proofs.JsonValues
import CreationCommit.Proofs.JsonWriting
import CreationCommit.Proofs.JsonRecords
import CreationCommit.Proofs.MessageFormat
import CreationCommit.Proofs.Heeding
import CreationCommit.Proofs.Repetition
import CreationCommit.Proofs.Leniency
import CreationCommit.Proofs.LenientCommit
import CreationCommit.Proofs.Roles
import CreationCommit.Proofs.AbortCauses
import CreationCommit.Proofs.Deadlines
import CreationCommit.Proofs.ReplicaStates
import CreationCommit.Proofs.AbortReports
import CreationCommit.Proofs.Announcements
import CreationCommit.Proofs.Foreign
import CreationCommit.Proofs.Sleepers
import CreationCommit.Proofs.Omission
import CreationCommit.Proofs.Noninterference
import CreationCommit.Proofs.TimeLimits
import CreationCommit.Proofs.RehearsalTraffic
import CreationCommit.Proofs.RehearsalRouter
import CreationCommit.Proofs.ParticipantSelection
import CreationCommit.Proofs.JsonLayout
import CreationCommit.Proofs.SettingsFormat
import CreationCommit.Proofs.DecimalTexts
import CreationCommit.Proofs.RecordReading
import CreationCommit.Proofs.SettingsOverlay
import CreationCommit.Proofs.SettingsOverrides
import CreationCommit.Proofs.ArgumentPairs
import CreationCommit.Proofs.Deliveries
import CreationCommit.Proofs.MemberOrder
import CreationCommit.Proofs.SharedGroups
