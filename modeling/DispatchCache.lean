import DispatchCache.Cache.Persisted
import DispatchCache.Declared
import DispatchCache.Json.Number
import DispatchCache.Main
import DispatchCache.Proofs.Cache.Answers
import DispatchCache.Proofs.Cache.ByFingerprint
import DispatchCache.Proofs.Cache.Contents
import DispatchCache.Proofs.Cache.Crowding
import DispatchCache.Proofs.Cache.Deduplication
import DispatchCache.Proofs.Cache.Failing
import DispatchCache.Proofs.Cache.Given
import DispatchCache.Proofs.Cache.Handles
import DispatchCache.Proofs.Cache.Reachable
import DispatchCache.Proofs.Cache.ReadingBack
import DispatchCache.Proofs.Cache.Separation
import DispatchCache.Proofs.Cache.Told
import DispatchCache.Proofs.Cache.Unasked
import DispatchCache.Proofs.CallSite.Conservation
import DispatchCache.Proofs.CallSite.Creation
import DispatchCache.Proofs.CallSite.Ending
import DispatchCache.Proofs.CallSite.Failure
import DispatchCache.Proofs.CallSite.Filing
import DispatchCache.Proofs.CallSite.Passes
import DispatchCache.Proofs.CallSite.Permanence
import DispatchCache.Proofs.CallSite.Policy
import DispatchCache.Proofs.CallSite.Slots
import DispatchCache.Proofs.CallSite.Transparency
import DispatchCache.Proofs.Classification
import DispatchCache.Proofs.Classification.Demand
import DispatchCache.Proofs.Classification.Faithful
import DispatchCache.Proofs.Classification.Order
import DispatchCache.Proofs.Classification.Stopping
import DispatchCache.Proofs.Config.Loading
import DispatchCache.Proofs.Config.RoundTrip
import DispatchCache.Proofs.Deeds
import DispatchCache.Proofs.Fingerprint.PartialEquivalence
import DispatchCache.Proofs.Reference.Binding
import DispatchCache.Proofs.Reference.Classes
import DispatchCache.Proofs.Reference.Desk
import DispatchCache.Proofs.Reference.Reading
import DispatchCache.Proofs.Reference.Types
import DispatchCache.Proofs.SharedCache.Apart
import DispatchCache.Proofs.SharedCache.Integrity
import DispatchCache.Proofs.SharedCache.Lockstep
import DispatchCache.Proofs.SharedCache.Serial
import DispatchCache.Proofs.SharedCache.Serving
import DispatchCache.Proofs.SharedCache.Uses
import DispatchCache.Proofs.Simulation.ClosedForm
import DispatchCache.Proofs.Simulation.Distinct
import DispatchCache.Proofs.Simulation.Filling
import DispatchCache.Proofs.Simulation.Notes
import DispatchCache.Proofs.Simulation.Rounds
import DispatchCache.Proofs.Simulation.Shapes
import DispatchCache.Workbench.Session
