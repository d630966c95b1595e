import TextRecords.Config
import TextRecords.Database.Deletion
import TextRecords.Database.FieldChange
import TextRecords.Database.Insertion
import TextRecords.ExpressionCache
import TextRecords.Query.Basic

/-!
# Shared databases

A database with its configuration and a cache of the expressions that its users compile. Samples
that are asked for without a seed are drawn with the configured one.
-/

namespace TextRecords

/-- A database that many users share. -/
structure SharedDatabase where
  database : Database
  config : Config
  cache : ExpressionCache

namespace SharedDatabase

/-- A database opened for sharing, with an empty cache. -/
def ofDatabase (database : Database) (config : Config) : SharedDatabase :=
  ⟨database, config, .ofCapacity config.expressionCacheSize⟩

/-- A filter with the configured seed, if it asks for a sample and has none. -/
def seeded (shared : SharedDatabase) (filter : Filter) : Filter :=
  if filter.sampleSize.isSome && filter.seed.isNone then
    { filter with seed := shared.config.sampleSeed }
  else filter

/-- What a query finds. -/
def query (shared : SharedDatabase) (sampler : Sampler) (query : Query) :
    Except Fault QueryResult :=
  shared.database.query sampler { query with filter := shared.seeded query.filter }

/-- Inserting a record. -/
def insert (shared : SharedDatabase) (sampler : Sampler) (generator : Generator)
    (insertion : Insertion) : Outcome Report :=
  shared.database.insert sampler generator
    { insertion with filter := shared.seeded insertion.filter }

/-- Deleting records. -/
def delete (shared : SharedDatabase) (sampler : Sampler) (deletion : Deletion) : Outcome Report :=
  shared.database.delete sampler { deletion with filter := shared.seeded deletion.filter }

/-- Changing fields. -/
def setFields (shared : SharedDatabase) (sampler : Sampler) (change : FieldChange) :
    Outcome Report :=
  shared.database.setFields sampler { change with filter := shared.seeded change.filter }

end SharedDatabase

end TextRecords
