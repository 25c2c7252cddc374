import FeatureFlags.Client.Options
import FeatureFlags.Json.Writer
import FeatureFlags.Proofs.Evaluation.Agreement
import FeatureFlags.Proofs.Evaluation.Rules
import FeatureFlags.Proofs.Evaluation.Asked
import FeatureFlags.Proofs.Evaluation.Visiting
import FeatureFlags.Proofs.Evaluation.Calls
import FeatureFlags.Proofs.Evaluation.Cycle
import FeatureFlags.Proofs.Evaluation.Folding
import FeatureFlags.Proofs.Condition.Loops
import FeatureFlags.Proofs.Json.Part
import FeatureFlags.Proofs.Json.Alike
import FeatureFlags.Proofs.Condition.Operands
import FeatureFlags.Proofs.Condition.Agreement
import FeatureFlags.Proofs.Condition.Representation
import FeatureFlags.Proofs.Client.Installed
import FeatureFlags.Proofs.Condition.Failure
import FeatureFlags.Proofs.Condition.Paths
import FeatureFlags.Proofs.Evaluation.Unmentioned
import FeatureFlags.Proofs.Evaluation.Reachable
import FeatureFlags.Proofs.Feature.Reading
import FeatureFlags.Proofs.Feature.Writing
import FeatureFlags.Proofs.Feature.Oversized
import FeatureFlags.Proofs.Number.Sum
import FeatureFlags.Proofs.Repository.History
import FeatureFlags.Proofs.Repository.Origin
import FeatureFlags.Proofs.Repository.Source
import FeatureFlags.Proofs.Repository.Age
import FeatureFlags.Proofs.Client.Loading
import FeatureFlags.Proofs.Client.Replay
import FeatureFlags.Proofs.Evaluation.Decision
import FeatureFlags.Proofs.Evaluation.Forced
import FeatureFlags.Proofs.Evaluation.Failure
import FeatureFlags.Proofs.Evaluation.Malformed
import FeatureFlags.Proofs.Evaluation.Ramping
import FeatureFlags.Proofs.Evaluation.Counterpart
import FeatureFlags.Proofs.Evaluation.Sticky
import FeatureFlags.Proofs.Evaluation.Rollout
import FeatureFlags.Proofs.Number.Bucket
import FeatureFlags.Proofs.Number.Fingerprint
import FeatureFlags.Proofs.Evaluation.Coverage
import FeatureFlags.Proofs.Evaluation.Slices
import FeatureFlags.Proofs.Evaluation.Consulting
import FeatureFlags.Proofs.Evaluation.Shuffling
import FeatureFlags.Proofs.Version.Decoration
import FeatureFlags.Proofs.Version.Prerelease
import FeatureFlags.Proofs.Condition.Matching
import FeatureFlags.Proofs.Condition.Segments
import FeatureFlags.Proofs.Condition.Quantifiers
