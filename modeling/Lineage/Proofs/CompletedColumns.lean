import Lineage.Proofs.Notices

/-!
# Columns that the catalog adds

The catalog adds to the columns of a relation those columns of its table that have none of their
names, letter case aside. After that every column of the table has its name among the columns, so
there is nothing left to add. If the table is one of several and that cannot be reported, there are
no columns at all.
-/

namespace Lineage.Catalog

/-! ### Missing columns -/

namespace Table

end Table

/-! ### Completion -/

section

variable {catalog : Option Catalog} {label : String} {qualifiedName : Option String}
  {table : Table}

end

variable (catalog : Option Catalog) (label : String) (qualifiedName : Option String) (box : String)
  (columns : List Lineage.Column)

end Lineage.Catalog
