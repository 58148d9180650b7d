import Lineage.Text.Blank
import Lineage.Text.Case

/-!
# Words of SQL

The words that SQL keeps for itself, its phrases of several words and its operators. All of them
are written in capital letters here; letter case does not matter in a name.
-/

namespace Lineage.QualifiedName

/-! ### Words -/

/-- The words that are no part of a path. -/
def reservedWords : List String :=
  ["ALTER", "AND", "AS", "BETWEEN", "CREATE", "CROSS", "DISTINCT", "DROP", "ELSE", "EXCEPT",
   "FETCH", "FOR", "FROM", "GLOB", "GRANT", "HAVING", "ILIKE", "INNER", "INSERT", "INTERSECT",
   "INTO", "JOIN", "LATERAL", "LIKE", "NOT", "NOTNULL", "ON", "OR", "OUTER", "PARTITIONED_BY",
   "QUALIFY", "REGEXP", "RETURNING", "REVOKE", "RLIKE", "ROLLBACK", "SELECT", "TABLESAMPLE", "THEN",
   "UNCACHE", "UNION", "USING", "VALUES", "WHEN", "WHERE", "WITH", "XOR"]

/-- The words among them that name functions. -/
def reservedFunctions : List String :=
  ["GLOB", "ILIKE", "INSERT", "LIKE", "REGEXP", "RLIKE", "UNION", "XOR"]

/-- The words that are parts of paths and name no function. -/
def uncallableWords : List String :=
  ["ANALYZE", "ANTI", "APPLY", "ASC", "ASOF", "AUTOINCREMENT", "AUTO_INCREMENT", "BEGIN", "CACHE",
   "CASE", "COLUMN", "COMMENT", "COMMIT", "CONSTRAINT", "COPY", "CUBE", "DATABASE", "DEFAULT",
   "DELETE", "DESC", "DESCRIBE", "DIV", "END", "ESCAPE", "EXECUTE", "FALSE", "FILE", "FULL",
   "FUNCTION", "IN", "IS", "KEEP", "KILL", "LIMIT", "LOAD", "LOCK", "NAMESPACE", "NATURAL",
   "OPERATOR", "ORDINALITY", "OVER", "OVERLAPS", "OVERWRITE", "PARTITION", "PERCENT", "PIVOT",
   "PRAGMA", "PROCEDURE", "RECURSIVE", "REFERENCES", "RENAME", "ROLLUP", "ROWS", "SCHEMA", "SEMI",
   "SET", "SETTINGS", "SHOW", "STRAIGHT_JOIN", "TEMP", "TEMPORARY", "TRUE", "UNIQUE", "UNPIVOT",
   "UPDATE", "USE", "VIEW", "VOLATILE"]

/-- The words that are parts of paths and name functions, although they have a meaning of their
own. -/
def callableWords : List String :=
  ["ALL", "ANY", "CALL", "COLLATE", "CURRENT_CATALOG", "CURRENT_DATE", "CURRENT_SCHEMA",
   "CURRENT_TIME", "CURRENT_TIMESTAMP", "CURRENT_USER", "EXISTS", "EXPLAIN", "FILTER", "FIRST",
   "FORMAT", "INDEX", "ISNULL", "LEFT", "LOCALTIME", "LOCALTIMESTAMP", "MERGE", "NEXT", "OFFSET",
   "OPTIMIZE", "PREPARE", "REPLACE", "RIGHT", "ROW", "SEQUENCE", "SESSION_USER", "SOME", "TABLE",
   "TRUNCATE", "UNNEST", "VACUUM", "WINDOW"]

/-- The words that are functions without arguments. -/
def bareFunctions : List String :=
  ["CURRENT_CATALOG", "CURRENT_DATE", "CURRENT_TIME", "CURRENT_TIMESTAMP", "CURRENT_USER",
   "LOCALTIME", "LOCALTIMESTAMP", "SESSION_USER"]

/-- The types whose arguments are fields. -/
def structTypes : List String :=
  ["OBJECT", "STRUCT", "UNION"]

/-- The types whose arguments are types. -/
def nestedTypes : List String :=
  ["ARRAY", "LIST", "MAP", "NULLABLE", "RANGE"] ++ structTypes

/-- The types that may say whether they are with a time zone. -/
def timeTypes : List String :=
  ["TIME", "TIMESTAMP", "TIMESTAMPTZ", "TIMESTAMPLTZ", "TIMESTAMP_LTZ", "TIMETZ"]

/-- The types without negative numbers that have a type with them. -/
def signedTypes : List String :=
  ["BIGINT", "BYTE", "DEC", "DECIMAL", "DOUBLE", "FIXED", "FLOAT8", "INT", "INT1", "INT16", "INT2",
   "INT32", "INT4", "INT64", "INT8", "INTEGER", "LONG", "MEDIUMINT", "NUMBER", "NUMERIC", "SHORT",
   "SMALLINT", "TINYINT"]

/-- The words that name types. -/
def typeWords : List String :=
  nestedTypes ++ timeTypes ++ signedTypes ++
  ["BIGDECIMAL", "BIGNUM", "BIGNUMERIC", "BINARY", "BIT", "BLOB", "BOOL", "BOOLEAN", "BPCHAR",
   "BYTEA", "CHAR", "CHARACTER", "CLOB", "DATE", "DATEMULTIRANGE", "DATERANGE", "DATETIME",
   "DECFLOAT", "DECIMAL128", "DECIMAL256", "DECIMAL32", "DECIMAL64", "ENUM", "FLOAT", "FLOAT4",
   "GEOGRAPHY", "GEOMETRY", "HUGEINT", "INET", "INT128", "INT256", "INT4MULTIRANGE", "INT4RANGE",
   "INT8MULTIRANGE", "INT8RANGE", "INTERVAL", "JSON", "JSONB", "LONGBLOB", "LONGTEXT",
   "LONGVARCHAR", "MEDIUMBLOB", "MEDIUMTEXT", "NCHAR", "NULL", "NUMMULTIRANGE", "NUMRANGE",
   "NVARCHAR", "NVARCHAR2", "REAL", "STR", "STRING", "TEXT", "TIMESTAMPNTZ", "TIMESTAMP_NTZ",
   "TIME_NS", "TINYBLOB", "TINYTEXT", "TSMULTIRANGE", "TSRANGE", "TSTZMULTIRANGE", "TSTZRANGE",
   "UHUGEINT", "UINT", "UINT128", "UINT256", "UNKNOWN", "UUID", "VARBINARY", "VARCHAR", "VARCHAR2",
   "VARIANT", "VECTOR"]

/-- The words that begin a statement of which the rest is not looked at. -/
def commandWords : List String :=
  ["CALL", "EXPLAIN", "OPTIMIZE", "PREPARE", "VACUUM", "EXECUTE", "FETCH", "SHOW", "RENAME"]

/-- The words after which a comment that begins with a plus sign is a hint. -/
def hintedWords : List String :=
  ["SELECT", "INSERT", "UPDATE", "DELETE"]

/-- The words that cannot be the alias of a table unless `AS` comes before them. -/
def joiningWords : List String :=
  ["ANTI", "ASOF", "FULL", "LEFT", "LOCK", "NATURAL", "RIGHT", "SEMI", "STRAIGHT_JOIN", "WINDOW"]

/-- The words that have a meaning of their own. -/
def isKeyword (word : String) : Bool :=
  reservedWords.contains word || uncallableWords.contains word || callableWords.contains word ||
    typeWords.contains word

/-! ### Phrases and operators -/

/-- The phrases that are types. -/
def typePhrases : List String :=
  ["DOUBLE PRECISION", "CHAR VARYING", "CHARACTER VARYING", "USER-DEFINED"]

/-- The phrases that are parts of paths. -/
def plainPhrases : List String :=
  "FOREIGN KEY" :: typePhrases

/-- The phrases that are not. -/
def reservedPhrases : List String :=
  ["CHARACTER SET", "CLUSTER BY", "CONNECT BY", "DISTRIBUTE BY", "GROUP BY", "GROUPING SETS",
   "ORDER BY", "PARTITION BY", "PARTITIONED BY", "PRIMARY KEY", "SIMILAR TO", "SORT BY",
   "START WITH", "FOR VERSION", "FOR TIMESTAMP", "SQL SECURITY"]

/-- The phrases that name functions. -/
def callablePhrases : List String :=
  "PRIMARY KEY" :: typePhrases

/-- The operators of several characters. No operator comes before one that begins with it. -/
def operators : List String :=
  ["<<->>", "->>", "#>>", "<=>", "<->", "~~~", "~~*", "-|-", "?::", "\x7b%+", "\x7b%-", "+%\x7d",
   "-%\x7d", "\x7b\x7b+", "\x7b\x7b-", "+\x7d\x7d", "-\x7d\x7d", "\x7b%", "%\x7d", "&<",
   "&>", "==", "::", "||", "|>", ">=", "<=", "<>", "!=", ":=", "->", "=>", "#>", "&&", "??",
   "~~", "~*"]

/-- The words and operators that mean the same as another one. -/
def synonyms : List (String × String) :=
  [("!", "NOT"), ("==", "="), ("!=", "<>"), ("~~", "LIKE"), ("~~*", "ILIKE"), ("~~~", "GLOB"),
   ("REGEXP", "RLIKE"), ("PARTITIONED_BY", "PARTITION BY"), ("PARTITIONED BY", "PARTITION BY"),
   ("TEMP", "TEMPORARY"), ("AUTO_INCREMENT", "AUTOINCREMENT")]

/-- The one of several words that mean the same by which they are known. -/
def canonical (word : String) : String :=
  (synonyms.lookup word).getD word

/-! ### Letter case -/

/-- A text in capital letters. -/
def capitals (text : List Char) : String :=
  Text.upper (String.ofList text)

/-- Whether a text is one of some words, letter case aside. -/
def isOneOf (words : List String) (text : List Char) : Bool :=
  words.contains (capitals text)

/-- The number of characters that a phrase takes at the beginning of a text. A blank of the phrase
stands for any white space. -/
def phraseSize? : List Char → List Char → Option Nat
  | [], _ => some 0
  | _ :: _, [] => none
  | p :: ps, c :: cs =>
    if p = ' ' then
      let blank := ((c :: cs).takeWhile Text.isSeparating).length
      if blank = 0 then none else (phraseSize? ps ((c :: cs).drop blank)).map (blank + ·)
    else if c.toUpper = p then (phraseSize? ps cs).map (1 + ·)
    else none

end Lineage.QualifiedName
