import InferenceBench.Main
import InferenceBench.Server.Script
import InferenceBench.Proofs.Pricing.Entries
import InferenceBench.Proofs.Pricing.Grammar
import InferenceBench.Proofs.Pricing.Lookup
import InferenceBench.Proofs.Run.Chunks
import InferenceBench.Proofs.Run.Tally
import InferenceBench.Proofs.Run.Rounds
import InferenceBench.Proofs.Run.Accounting
import InferenceBench.Proofs.Run.CompletionOrder
import InferenceBench.Proofs.Run.Interleaving
import InferenceBench.Proofs.Run.Barrier
import InferenceBench.Proofs.Run.Adequacy
import InferenceBench.Proofs.Run.Phases
import InferenceBench.Proofs.Server.Attempts
import InferenceBench.Proofs.Server.BaseUrl
import InferenceBench.Proofs.Baseline.SelfComparison
import InferenceBench.Proofs.Baseline.Verdict
import InferenceBench.Proofs.Baseline.Saving
import InferenceBench.Proofs.Pricing.Repricing
import InferenceBench.Proofs.Pricing.Passes
import InferenceBench.Proofs.Pricing.Outline
import InferenceBench.Proofs.Pricing.Structure
import InferenceBench.Proofs.Pricing.Neighbours
import InferenceBench.Proofs.Pricing.Results
import InferenceBench.Proofs.Command.Disk
import InferenceBench.Proofs.Command.UpdatePricing
import InferenceBench.Proofs.Chat.Message
import InferenceBench.Proofs.Accuracy.Collection
import InferenceBench.Proofs.Command.Session
import InferenceBench.Proofs.Command.CollectResponses
import InferenceBench.Proofs.Baseline.MappingOrder
import InferenceBench.Proofs.Pricing.Substitution
import InferenceBench.Proofs.Baseline.Writing
import InferenceBench.Proofs.Pricing.Agreement
import InferenceBench.Proofs.Command.MatchedKey
import InferenceBench.Proofs.Pricing.CachedPrice
import InferenceBench.Proofs.Baseline.Overriding
import InferenceBench.Proofs.Baseline.Refusal
import InferenceBench.Proofs.Command.CompareBaseline
import InferenceBench.Proofs.Baseline.TableOrder
import InferenceBench.Proofs.Run.History
import InferenceBench.Proofs.Accuracy.Prompts
import InferenceBench.Proofs.Chat.Response
import InferenceBench.Proofs.Run.Partition
import InferenceBench.Proofs.Numeral.Value
import InferenceBench.Proofs.Run.Quantile
import InferenceBench.Proofs.Run.OrderStatistics
import InferenceBench.Proofs.Pricing.Search
import InferenceBench.Proofs.Accuracy.SingleAttempt
import InferenceBench.Proofs.Command.HealthCheck
import InferenceBench.Proofs.Server.FailureBody
