import Recall.CommandLine.Program
import Recall.Embedding.Pooling
import Recall.Embedding.WordHash
import Recall.FullText.Expression
import Recall.Main
import Recall.Schema.Migration
import Recall.Tool.Conversation
import Recall.Proofs.History
import Recall.Proofs.Labels
import Recall.Proofs.Writes
import Recall.Proofs.Passes
import Recall.Proofs.Submissions
import Recall.Proofs.Effects
import Recall.Proofs.Retention
import Recall.Proofs.Documents
import Recall.Proofs.Indexing
import Recall.Proofs.Stranding
import Recall.Proofs.Provenance
import Recall.Proofs.Answers
import Recall.Proofs.Findings
import Recall.Proofs.Visibility
import Recall.Proofs.DocumentIds
import Recall.Proofs.Reliability
import Recall.Proofs.PromptTexts
import Recall.Proofs.Mirror
import Recall.Proofs.Newest
import Recall.Proofs.Evictions
import Recall.Proofs.Courses
import Recall.Proofs.Schedules
import Recall.Proofs.Clusters
import Recall.Proofs.Presentation
import Recall.Proofs.Gaps
import Recall.Proofs.Listing
import Recall.Proofs.StableOrder
import Recall.Proofs.Degradation
import Recall.Proofs.Refusals
import Recall.Proofs.Repetition
import Recall.Proofs.Words
import Recall.Proofs.SharedTerms
import Recall.Proofs.Crowding
import Recall.Proofs.SessionRows
import Recall.Proofs.SessionEvents
import Recall.Proofs.SessionHistories
import Recall.Proofs.Batches
import Recall.Proofs.IndexRequests
import Recall.Proofs.Permanence
import Recall.Proofs.Bookkeeping
import Recall.Proofs.Retrieval
import Recall.Proofs.Appearance
import Recall.Proofs.Counters
import Recall.Proofs.SavedPrompts
import Recall.Proofs.Representatives
import Recall.Proofs.FusedScores
import Recall.Proofs.Dominance
import Recall.Proofs.KeywordMatches
import Recall.Proofs.KeywordSearch
import Recall.Proofs.Tokens
import Recall.Proofs.Fallback
import Recall.Proofs.Reembedding
import Recall.Proofs.Titles
import Recall.Proofs.Acceptance
import Recall.Proofs.Migrations
import Recall.Proofs.DocumentPlaces
import Recall.Proofs.Keywords
import Recall.Proofs.Expressions
import Recall.Proofs.Fingerprints
import Recall.Proofs.MigrationSteps
import Recall.Proofs.Pooling
import Recall.Proofs.MergedRanking
import Recall.Proofs.Truncation
import Recall.Proofs.Candidates
import Recall.Proofs.Fetching
import Recall.Proofs.Columns
import Recall.Proofs.Overlaps
