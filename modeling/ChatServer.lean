import ChatServer.Loopback.World
import ChatServer.Store.Filling
import ChatServer.Proofs.Paging
import ChatServer.Proofs.Halfway
import ChatServer.Proofs.UserIndex
import ChatServer.Proofs.Accounts
import ChatServer.Proofs.Events
import ChatServer.Proofs.Conversation
import ChatServer.Proofs.Echo
import ChatServer.Proofs.Integrity
import ChatServer.Proofs.TokenLife
import ChatServer.Proofs.BearerForms
import ChatServer.Proofs.Users
import ChatServer.Proofs.Workers
import ChatServer.Proofs.Admission
import ChatServer.Proofs.SignUp
import ChatServer.Proofs.Lifecycle
import ChatServer.Proofs.Writing
import ChatServer.Proofs.Outflow
import ChatServer.Proofs.Farewell
import ChatServer.Proofs.JsonRoundTrip
import ChatServer.Proofs.HistoryAddress
import ChatServer.Proofs.Histories
import ChatServer.Proofs.Provenance
import ChatServer.Proofs.Migration
import ChatServer.Proofs.Settings
import ChatServer.Proofs.Deliveries
import ChatServer.Proofs.Heartbeats
import ChatServer.Proofs.TimeCode
import ChatServer.Proofs.Fallback
import ChatServer.Proofs.Memberships
import ChatServer.Proofs.Retrieval
import ChatServer.Proofs.FirstChecks
import ChatServer.Proofs.Spellings
import ChatServer.Proofs.Utf8
import ChatServer.Proofs.Numerals
import ChatServer.Proofs.Environment

