import Lineage.QualifiedName.Keyword

/-!
# Functions of SQL

The functions that SQL knows, with the number of arguments that they take. One of the arguments is
the one that the function works on, and it stands for the call: mostly it is the first.
-/

namespace Lineage.QualifiedName

/-- The arguments of a function that SQL knows. -/
structure Function where
  /-- The least number of arguments. -/
  least : Nat
  /-- The greatest number of arguments, if there is one. -/
  most : Option Nat
  /-- The place of the argument that the function works on, if there is one. -/
  place : Option Nat := some 0
  deriving DecidableEq, Repr

namespace Function

/-- Whether a function takes a number of arguments. -/
def takes (f : Function) (count : Nat) : Bool :=
  f.least ≤ count && f.most.elim true (count ≤ ·)

/-- The functions of one argument. -/
def ofOne : List String :=
  ["ABS", "ACOS", "ACOSH", "ANY_VALUE", "ARRAY_COMPACT", "ARRAY_CONCAT_AGG",
   "ARRAY_FIRST", "ARRAY_LAST", "ARRAY_MAX", "ARRAY_MIN", "ARRAY_REVERSE", "ARRAY_UNION_AGG",
   "ARRAY_UNIQUE_AGG", "ASCII", "ASIN", "ASINH", "ATANH", "AVG", "BITMAP_BIT_POSITION",
   "BITMAP_BUCKET_NUMBER", "BITMAP_CONSTRUCT_AGG", "BITMAP_COUNT", "BITMAP_OR_AGG",
   "BITWISE_AND_AGG", "BITWISE_COUNT", "BITWISE_OR_AGG", "BITWISE_XOR_AGG", "BIT_LENGTH",
   "BOOLAND_AGG", "BOOLOR_AGG", "BOOLXOR_AGG", "BOOL_AND", "BOOL_OR", "BYTE_LENGTH", "CBRT",
   "CHECK_XML", "CODE_POINTS_TO_BYTES", "CODE_POINTS_TO_STRING", "COLLATION", "CONNECT_BY_ROOT",
   "COS", "COSH", "COT", "COTH", "COUNTIF", "COUNT_IF", "CSC", "CSCH", "DATE_FROM_UNIX_DATE",
   "DATE_STR_TO_DATE", "DATE_TO_DI", "DAY", "DAYOFMONTH", "DAYOFWEEK", "DAYOFWEEK_ISO",
   "DAYOFYEAR", "DAY_OF_MONTH", "DAY_OF_WEEK", "DAY_OF_YEAR", "DEGREES", "DI_TO_DATE", "EXP",
   "FACTORIAL", "FIRST_VALUE", "FLATTEN", "FROM_BASE32", "FROM_BASE64",
   "FROM_ISO8601_TIMESTAMP", "HEX", "HOST", "HOUR", "INLINE", "INT64", "ISINF", "ISNAN", "ISODOW",
   "IS_ARRAY", "IS_ASCII", "IS_INF", "IS_NAN", "IS_NULL_VALUE", "JSON_BOOL", "JSON_TYPEOF",
   "KURTOSIS", "LAST_VALUE", "LCASE", "LN", "LOGICAL_AND", "LOGICAL_OR", "LOWER", "LOWER_HEX",
   "MAP_FROM_ENTRIES", "MAP_KEYS", "MAP_SIZE", "MD5", "MD5_NUMBER_LOWER64", "MD5_NUMBER_UPPER64",
   "MEDIAN", "MINUTE", "MONTH", "QUARTER", "RADIANS", "REG_DOMAIN", "REVERSE", "RTRIMMED_LENGTH",
   "SAFE_CONVERT_BYTES_TO_STRING", "SAFE_NEGATE", "SEC", "SECH", "SECOND", "SHA", "SHA1",
   "SHA1_DIGEST", "SIGN", "SIGNUM", "SIN", "SINH", "SKEWNESS", "SOUNDEX", "SOUNDEX_P123", "SPACE",
   "SQRT", "STAR_MAP", "STDDEV", "STDDEV_POP", "STDDEV_SAMP", "STDEV", "SUM", "TAN", "TANH",
   "TIME_STR_TO_DATE", "TIME_STR_TO_UNIX", "TIME_TO_UNIX", "TO_ARRAY", "TO_BASE32", "TO_BASE64",
   "TO_CODE_POINTS", "TO_DAYS", "TO_HEX", "TO_MAP", "TRY", "TS_OR_DI_TO_DI", "TS_OR_DS_TO_DATETIME",
   "TS_OR_DS_TO_TIMESTAMP", "TYPEOF", "UCASE", "UNICODE", "UNIX_DATE", "UNIX_MICROS",
   "UNIX_MILLIS", "UNIX_SECONDS", "UNIX_TO_TIME_STR", "UPPER", "VARIANCE", "VARIANCE_POP",
   "VARIANCE_SAMP", "VAR_POP", "VAR_SAMP", "WEEKOFYEAR", "WEEK_OF_YEAR", "YEAR", "YEAROFWEEK",
   "YEAROFWEEKISO", "YEAR_OF_WEEK", "YEAR_OF_WEEK_ISO"]

/-- The functions of two arguments. -/
def ofTwo : List String :=
  ["AI_AGG", "ARRAY_ALL", "ARRAY_ANY", "ARRAY_CONTAINS_ALL", "ARRAY_FILTER", "ARRAY_HAS_ALL",
   "ARRAY_OVERLAPS", "ATAN2", "CAST_TO_STR_TYPE",
   "COLLATE", "COSINE_DISTANCE", "COVAR_POP", "COVAR_SAMP", "DOT_PRODUCT", "ENCODE",
   "ENDSWITH", "ENDS_WITH", "EUCLIDEAN_DISTANCE", "FILTER", "FLOAT64", "FROM_BASE", "GETBIT",
   "GET_BIT", "GET_EXTRACT", "JAROWINKLER_SIMILARITY", "JSONB_CONTAINS", "JSONB_EXTRACT",
   "JSONB_EXTRACT_SCALAR", "JSONB_OBJECT_AGG", "LEFT", "MANHATTAN_DISTANCE", "MAP_CAT",
   "NEXT_DAY", "NULLIF", "OBJECT_AGG", "PARSE_TIME", "POW", "POWER", "PREVIOUS_DAY", "QUANTILE",
   "RANGE_BUCKET", "REGR_AVGX", "REGR_AVGY", "REGR_COUNT", "REGR_INTERCEPT", "REGR_R2",
   "REGR_SLOPE", "REGR_SXX", "REGR_SXY", "REGR_SYY", "REGR_VALX", "REGR_VALY", "REPEAT", "RIGHT",
   "SAFE_ADD", "SAFE_DIVIDE", "SAFE_MULTIPLY", "SAFE_SUBTRACT", "SEARCH_IP", "STARTSWITH",
   "STARTS_WITH", "STRUCT_EXTRACT", "TRANSFORM", "XML_GET"]

/-- The functions with the first argument as the one that they work on, by the numbers of their
arguments. -/
def plain : List (Nat × Option Nat × List String) :=
  [(1, some 1, ofOne),
   (2, some 2, ofTwo),
   (0, some 1,
    ["CURRENT_DATE", "CURRENT_DATETIME", "CURRENT_SCHEMA", "CURRENT_SCHEMAS", "CURRENT_TIME",
     "CURRENT_USER", "LOCALTIME", "LOCALTIMESTAMP", "NTILE", "RANDN", "ROW_NUMBER", "SEQ1", "SEQ2",
     "SEQ4", "SEQ8", "SYSTIMESTAMP", "UTC_TIME", "UTC_TIMESTAMP"]),
   (0, some 2, ["CURRENT_TIMESTAMP", "MODE", "STR_TO_UNIX"]),
   (0, some 3, ["GENERATE_UUID", "GEN_RANDOM_UUID", "RAND", "RANDOM", "TIMESTAMP", "UUID",
     "UUID_STRING"]),
   (0, none, ["COUNT", "DATE", "XOR"]),
   (1, some 2,
    ["APPROX_COUNT_DISTINCT", "APPROX_DISTINCT", "ARRAY_AGG", "ARRAY_DISTINCT", "ARRAY_LENGTH",
     "ARRAY_SIZE", "ARRAY_SORT", "ARRAY_SUM", "ATAN", "COMPRESS", "DATETIME", "DAYNAME",
     "DECOMPRESS_BINARY", "DECOMPRESS_STRING", "EXISTS", "FIRST", "HEX_DECODE_STRING", "HEX_ENCODE",
     "INITCAP", "JSON_KEYS", "JSON_TYPE", "LAST", "LAST_DAY", "LAST_DAY_OF_MONTH", "LOG",
     "MONTHNAME", "PARSE_DATETIME", "PERCENTILE_CONT", "PERCENTILE_DISC", "RANDSTR", "SHA2",
     "SHA2_DIGEST", "STANDARD_HASH", "STRING", "TIME_STR_TO_TIME", "TO_BOOLEAN", "UNHEX",
     "UNIX_TO_STR", "WEEK"]),
   (1, some 3,
    ["APPROX_TOP_K", "CEILING", "CHARACTER_LENGTH", "CHAR_LENGTH", "COLUMNS", "GROUP_CONCAT",
     "JSON_PARSE", "LAG", "LEAD", "LEN", "LENGTH", "NORMALIZE", "PARSE_JSON", "ROUND", "SORT_ARRAY",
     "STR_TO_DATE", "SUBSTR", "SUBSTRING", "TO_BINARY", "TO_DOUBLE", "TO_FILE", "TRUNC", "TRUNCATE",
     "TS_OR_DS_TO_DATE", "TS_OR_DS_TO_TIME"]),
   (1, some 4, ["JSON_EXISTS", "LTRIM", "RTRIM", "STR_TO_MAP", "TO_CHAR"]),
   (1, some 6, ["LEVENSHTEIN"]),
   (1, some 7, ["TO_NUMBER", "UNIX_TO_TIME"]),
   (1, none,
    ["ARRAY_CAT", "ARRAY_CONCAT", "COALESCE", "EXPLODE", "EXPLODE_OUTER", "FORMAT", "GREATEST",
     "HASH_AGG", "HLL", "IFNULL", "JSON_REMOVE", "LEAST", "MAX", "MD5_DIGEST", "MIN", "NVL",
     "POSEXPLODE", "POSEXPLODE_OUTER", "READ_CSV", "XMLELEMENT"]),
   (2, some 3,
    ["APPROX_QUANTILE", "ARRAY_APPEND", "ARRAY_EXCEPT", "ARRAY_JOIN", "ARRAY_POSITION",
     "ARRAY_PREPEND", "ARRAY_REMOVE", "ARRAY_TO_STRING", "CONTAINS", "CONVERT_TO_CHARSET", "CORR",
     "DATETIME_ADD",
     "DATETIME_DIFF", "DATETIME_SUB", "DATETIME_TRUNC", "DATE_ADD", "DATE_SUB", "DECODE", "IF",
     "IIF", "JSONB_EXISTS", "JSON_ARRAY_CONTAINS", "MONTHS_BETWEEN", "NTH_VALUE", "NUMBER_TO_STR",
     "NVL2", "REGEXP_I_LIKE", "REGEXP_SPLIT", "REPLACE", "ST_DISTANCE", "ST_MAKEPOINT", "ST_POINT",
     "TIMESTAMP_ADD", "TIMESTAMP_SUB", "TIMESTAMP_TRUNC", "TIME_ADD", "TIME_DIFF", "TIME_SUB",
     "TIME_TRUNC", "TS_OR_DS_DIFF"]),
   (2, some 4,
    ["ARRAY_CONTAINS", "ARRAY_HAS", "LEFTPAD", "LPAD", "REGEXP_COUNT", "REGEXP_LIKE", "RIGHTPAD",
     "RPAD", "SPLIT", "TIMESTAMPDIFF", "TIMESTAMP_DIFF", "TIME_TO_STR", "TS_OR_DS_ADD"]),
   (2, some 5, ["DATE_BIN", "INSTR", "STRPOS", "STR_POSITION", "STR_TO_TIME"]),
   (2, some 6, ["DATEDIFF", "DATE_DIFF", "SEARCH"]),
   (2, some 7, ["REGEXP_EXTRACT", "REGEXP_EXTRACT_ALL", "REGEXP_INSTR", "REGEXP_REPLACE"]),
   (2, none,
    ["ELT", "JSON_ARRAY_APPEND", "JSON_ARRAY_INSERT", "JSON_EXTRACT", "JSON_EXTRACT_PATH_TEXT",
     "JSON_EXTRACT_SCALAR", "JSON_SET", "MOD"]),
   (3, some 3, ["SUBSTRING_INDEX", "TRANSLATE"]),
   (3, some 4, ["ARRAY_INSERT", "OBJECT_INSERT"]),
   (2, some 4, ["SPLIT_PART"]),
   (3, some 4, ["REDUCE"]),
   (4, some 4, ["INSERT", "PAD", "STUFF", "WIDTH_BUCKET"])]

/-- The functions that work on no argument in particular, by the numbers of their arguments. -/
def even : List (Nat × Option Nat × List String) :=
  [(0, some 0,
    ["CURRENT_ACCOUNT", "CURRENT_CATALOG", "CURRENT_CLIENT", "CURRENT_DATABASE",
     "CURRENT_IP_ADDRESS", "CURRENT_REGION", "CURRENT_ROLE", "CURRENT_SESSION",
     "CURRENT_STATEMENT", "CURRENT_TIMESTAMP_L_T_Z", "CURRENT_TIMEZONE", "CURRENT_TRANSACTION",
     "CURRENT_VERSION", "CURRENT_WAREHOUSE", "PI", "SESSION_USER", "UTC_DATE"]),
   (0, some 2, ["MAP"]),
   (0, some 7, ["MAKE_INTERVAL"]),
   (0, none,
    ["ARRAY", "ARRAY_CONSTRUCT_COMPACT", "CUME_DIST", "DENSE_RANK", "GROUPING", "JSON_ARRAY",
     "LIST", "PERCENT_RANK", "RANK", "STRUCT"]),
   (1, some 4, ["DATEFROMPARTS", "DATE_FROM_PARTS", "UNNEST"]),
   (1, none,
    ["ARRAYS_ZIP", "ARRAY_INTERSECT", "ARRAY_INTERSECTION", "ARRAY_ZIP", "CHAR", "CHR", "CONCAT",
     "CONCAT_WS", "DECODE_CASE", "FARMFINGERPRINT64", "FARM_FINGERPRINT", "GROUPING_ID",
     "READ_PARQUET"]),
   (2, some 3, ["GENERATE_DATE_ARRAY"]),
   (2, some 4, ["CONVERT_TIMEZONE", "EXPLODING_GENERATE_SERIES", "GENERATE_SERIES"]),
   (3, some 3, ["GENERATE_TIMESTAMP_ARRAY"]),
   (3, some 6, ["TIMEFROMPARTS", "TIME_FROM_PARTS"])]

/-- The functions that work on their second argument. -/
def second : List (Nat × Option Nat × List String) :=
  [(2, some 4, ["DATE_TRUNC"]),
   (2, some 5, ["CHARINDEX", "LOCATE"]),
   (2, none, ["GLOB"])]

/-- The function of a name in capital letters, if SQL knows it. -/
def ofName? (name : String) : Option Function :=
  let within (place : Option Nat) (families : List (Nat × Option Nat × List String)) :=
    (families.find? fun f => f.2.2.contains name).map fun f => Function.mk f.1 f.2.1 place
  (within (some 0) plain).or ((within none even).or (within (some 1) second))

end Function

end Lineage.QualifiedName
