import MusicianGraph.Graph.Check
import MusicianGraph.Http.Api
import MusicianGraph.Main
import MusicianGraph.Overlap
import MusicianGraph.Seed.Run
import MusicianGraph.Proofs.Ranking.Strategies
import MusicianGraph.Proofs.Service.Refusal
import MusicianGraph.Proofs.Service.ReadBack
import MusicianGraph.Proofs.Http.BadRequest
import MusicianGraph.Proofs.Service.PrefixSearch
import MusicianGraph.Proofs.Service.Suggesting
import MusicianGraph.Proofs.Http.Suggestions
import MusicianGraph.Proofs.Schema.Digits
import MusicianGraph.Proofs.Ranking.TagScores
import MusicianGraph.Proofs.Csv.Columns
import MusicianGraph.Proofs.Csv.Degrees
import MusicianGraph.Proofs.Csv.Tables
import MusicianGraph.Proofs.Seed.Readable
import MusicianGraph.Proofs.Service.NormalForm
import MusicianGraph.Proofs.Model.Revalidation
import MusicianGraph.Proofs.Seed.Sequence
import MusicianGraph.Proofs.Model.CleanTags
import MusicianGraph.Proofs.Model.TagCells
import MusicianGraph.Proofs.Ranking.ActivityOrder
import MusicianGraph.Proofs.Ranking.Parts
import MusicianGraph.Proofs.Service.SearchAnswers
import MusicianGraph.Proofs.Graph.SpatialPoints
import MusicianGraph.Proofs.Graph.LifeCycle
import MusicianGraph.Proofs.Http.Edits
import MusicianGraph.Proofs.Graph.SparseRows
import MusicianGraph.Proofs.Model.TagFields
import MusicianGraph.Proofs.Http.Pages
import MusicianGraph.Proofs.Seed.FollowEdges
import MusicianGraph.Proofs.Seed.EventNames
import MusicianGraph.Proofs.Http.FollowAnswers
import MusicianGraph.Proofs.Http.StoredNumbers
import MusicianGraph.Proofs.Http.Offsets
