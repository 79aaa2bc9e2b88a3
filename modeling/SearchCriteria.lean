import SearchCriteria.Version
import SearchCriteria.Proofs.Compile.Meaning
import SearchCriteria.Proofs.Compile.Refusal
import SearchCriteria.Proofs.Codec.RoundTrip
import SearchCriteria.Proofs.Compile.FilterReading
import SearchCriteria.Proofs.Compile.Simulation
import SearchCriteria.Proofs.Compile.Unwrapping
import SearchCriteria.Proofs.Text.Quoted
import SearchCriteria.Proofs.Compile.Accepted
import SearchCriteria.Proofs.Compile.QuotedValues
import SearchCriteria.Proofs.Query.NormalForm
import SearchCriteria.Proofs.Compile.NormalForm
import SearchCriteria.Proofs.Codec.NormalForm
import SearchCriteria.Proofs.Compile.Emptiness
import SearchCriteria.Proofs.Compile.Projection
import SearchCriteria.Proofs.Json.Records
import SearchCriteria.Proofs.Codec.Query
import SearchCriteria.Proofs.Codec.Compiled
import SearchCriteria.Proofs.Json.Fitting
import SearchCriteria.Proofs.Json.Readers
import SearchCriteria.Proofs.Codec.Image.Query
import SearchCriteria.Proofs.Codec.Image.Criteria
import SearchCriteria.Proofs.Codec.Normalization
import SearchCriteria.Proofs.Criteria.Growth
import SearchCriteria.Proofs.Codec.ValueReadBack
import SearchCriteria.Proofs.Codec.Obtained
import SearchCriteria.Proofs.Compile.Geography
import SearchCriteria.Proofs.Text.Literals
import SearchCriteria.Proofs.Compile.LiteralTexts
import SearchCriteria.Proofs.Numeric.Literals
import SearchCriteria.Proofs.Geo.Text
import SearchCriteria.Proofs.Compile.Spelling
import SearchCriteria.Proofs.Compile.Boosts
import SearchCriteria.Proofs.Compile.Decoration
import SearchCriteria.Proofs.Compile.Grouping
import SearchCriteria.Proofs.Compile.OperatorTable
import SearchCriteria.Proofs.Compile.Intervals
import SearchCriteria.Proofs.Geo.Distances
import SearchCriteria.Proofs.Compile.Telling
