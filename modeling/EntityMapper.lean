import EntityMapper.Declaration.Attribute
import EntityMapper.Declaration.Check
import EntityMapper.Lazy.Shelf
import EntityMapper.Scenario.Shell
import EntityMapper.Scenario.Stage
import EntityMapper.Value.Tagged
import EntityMapper.Proofs.Flush.Ledger
import EntityMapper.Proofs.Flush.Splitting
import EntityMapper.Proofs.Query.Literals
import EntityMapper.Proofs.Session.LostUpdate
import EntityMapper.Proofs.Session.Reconciling
import EntityMapper.Proofs.Session.SoloRun
import EntityMapper.Proofs.Session.Transacting
import EntityMapper.Proofs.Query.Strictness
import EntityMapper.Proofs.Query.AliasPaths
import EntityMapper.Proofs.Entity.Fingerprints
import EntityMapper.Proofs.Session.Failing
import EntityMapper.Proofs.Query.Values
import EntityMapper.Proofs.Query.Layout
import EntityMapper.Proofs.Store.VersionColumns
import EntityMapper.Proofs.Session.VersionSync
import EntityMapper.Proofs.Declaration.Acceptance
import EntityMapper.Proofs.Store.FieldOrder
import EntityMapper.Proofs.Store.References
import EntityMapper.Proofs.Lazy.Sharing
import EntityMapper.Proofs.Session.ReadingRuns
import EntityMapper.Proofs.Session.Reordering
import EntityMapper.Proofs.Session.DetachedCopies
import EntityMapper.Proofs.Query.Recognition
import EntityMapper.Proofs.Query.Punctuation
import EntityMapper.Proofs.Query.ExactNames
import EntityMapper.Proofs.Query.JoinPlaces
import EntityMapper.Proofs.Declaration.Rearranging
import EntityMapper.Proofs.Sql.Keeping
import EntityMapper.Proofs.Sql.Counting
import EntityMapper.Proofs.Store.Collections
import EntityMapper.Proofs.Entity.Columns
import EntityMapper.Proofs.Entity.Registries
