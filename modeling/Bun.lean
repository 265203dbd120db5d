import Bun.Sqlfmt
import Bun.Schema.Table
import Bun.Schema.Scan
import Bun.Query.Base
import Bun.Query.Where
import Bun.Query.Returning
import Bun.Query.Builder
import Bun.Query.CreateIndex
import Bun.Proof.Binding
import Bun.Proof.WhereClause
import Bun.Proof.SoftDelete
import Bun.Proof.CreateIndexRun
import Bun.Proof.StickyError
import Bun.Proof.CreateIndexTable
import Bun.Proof.WhereFormula
import Bun.Proof.WhereTree
import Bun.Proof.MustWhere
import Bun.Proof.ExcludeColumn
import Bun.Proof.ScanInt
import Bun.Proof.TableRefs
import Bun.Proof.WherePK
import Bun.Proof.ReturningClause
import Bun.Proof.WhereParens
import Bun.Proof.Columns
import Bun.Proof.CustomValue
import Bun.Proof.WherePrecedence
import Bun.Proof.CreateIndexOptions
import Bun.Proof.WherePKPrecedence
