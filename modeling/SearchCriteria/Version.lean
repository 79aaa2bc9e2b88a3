/-
# The library without its theory

Everything that runs in this version: criteria are built, read from JSON, compiled and written. A
program imports this module alone, and none of the proofs or of what they rest on comes with it.
-/
import SearchCriteria.Codec.Criteria
import SearchCriteria.Codec.Query
import SearchCriteria.Compile.Chain
import SearchCriteria.Config
import SearchCriteria.Criteria.Builder
