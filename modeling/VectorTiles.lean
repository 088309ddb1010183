import VectorTiles.Database.Script
import VectorTiles.Log.Root
import VectorTiles.Proofs.Database.ConnectionUse
import VectorTiles.Proofs.Tile.Binding
import VectorTiles.Proofs.Tile.Containment
import VectorTiles.Service.Lifecycle
import VectorTiles.Proofs.Copy.Framing
import VectorTiles.Proofs.Copy.RoundTrip
import VectorTiles.Proofs.Time.Calendar
import VectorTiles.Proofs.Time.Clock
import VectorTiles.Proofs.Replication.Command
import VectorTiles.Proofs.Replication.MemoryLog
import VectorTiles.Proofs.Replication.SentRows
import VectorTiles.Proofs.Replication.TableServer
import VectorTiles.Proofs.Replication.Simulation
import VectorTiles.Proofs.Schema.Checked
import VectorTiles.Proofs.Tileset.Acceptance
import VectorTiles.Proofs.Tile.Reference
import VectorTiles.Proofs.Replication.CommitDiscipline
import VectorTiles.Proofs.Tile.StoreRun
import VectorTiles.Proofs.Service.Failures
import VectorTiles.Proofs.Service.TileAnswers
import VectorTiles.Proofs.Service.Discretion
import VectorTiles.Proofs.Replication.LogRun
import VectorTiles.Proofs.Tileset.Exactness
import VectorTiles.Proofs.Tile.Confinement
import VectorTiles.Proofs.Sql.Grammar
import VectorTiles.Proofs.Sql.Verdict
import VectorTiles.Proofs.Copy.TimestampField
import VectorTiles.Proofs.Copy.Abandonment
import VectorTiles.Proofs.Replication.BulkLoad
import VectorTiles.Proofs.Service.Lifetime
import VectorTiles.Proofs.Geometry.Formation
import VectorTiles.Proofs.Tileset.SelfDescription
import VectorTiles.Proofs.Sql.LiteralReading
