import ModuleDepot.Fetch.Flight
import ModuleDepot.Main
import ModuleDepot.Proofs.Descriptor.RoundTrip
import ModuleDepot.Proofs.Descriptor.Truncation
import ModuleDepot.Proofs.Fetch.Accounts
import ModuleDepot.Proofs.Fetch.Commutation
import ModuleDepot.Proofs.Fetch.Confinement
import ModuleDepot.Proofs.Fetch.Course
import ModuleDepot.Proofs.Fetch.Escape
import ModuleDepot.Proofs.Fetch.Failure
import ModuleDepot.Proofs.Fetch.Immutability
import ModuleDepot.Proofs.Fetch.LockTable
import ModuleDepot.Proofs.Fetch.Order
import ModuleDepot.Proofs.Fetch.Repeat
import ModuleDepot.Proofs.Fetch.Resume
import ModuleDepot.Proofs.Fetch.Upkeep
import ModuleDepot.Proofs.Markup.Reading
import ModuleDepot.Proofs.Markup.Spelling
import ModuleDepot.Proofs.Repository.Attempts
import ModuleDepot.Proofs.Resolver.Agreement
import ModuleDepot.Proofs.Store.Fault
import ModuleDepot.Proofs.Store.Missing
import ModuleDepot.Repository.Memory
import ModuleDepot.Proofs.Path.Components
import ModuleDepot.Proofs.Resolver.Misses
import ModuleDepot.Proofs.Layout.Symmetry
import ModuleDepot.Proofs.Resolver.Files
import ModuleDepot.Proofs.Url.Opening
import ModuleDepot.Proofs.Url.Following
import ModuleDepot.Proofs.Repository.Target
import ModuleDepot.Proofs.Repository.Decoding
import ModuleDepot.Proofs.Config.Validation
import ModuleDepot.Proofs.Config.Layers
import ModuleDepot.Proofs.Command.Precedence
import ModuleDepot.Proofs.Command.Places
import ModuleDepot.Proofs.Store.Atomicity
import ModuleDepot.Proofs.Repository.Waits
import ModuleDepot.Proofs.Config.Blanks
import ModuleDepot.Proofs.Resolver.Presence
import ModuleDepot.Proofs.Layout.Containment
