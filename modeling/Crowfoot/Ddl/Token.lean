import Crowfoot.Ddl.Dialect

/-
The tokens of SQL text, and the classes of words that the dialects tell apart: words that name types, and words that
cannot stand for a name.
-/

namespace Crowfoot.Ddl

inductive TokenKind where
  /-- punctuation or an operator -/
  | symbol
  /-- a text between quotes -/
  | string
  | number
  /-- a name between quotes -/
  | quoted
  /-- a bare word, or several words that are read as one -/
  | word
  /-- a literal of another form: a byte string, a text between dollars -/
  | literal
  deriving DecidableEq, Repr

/-- a token with its text and where it starts and stops in the script -/
structure Token where
  kind : TokenKind
  text : String
  start : Nat
  stop : Nat
  deriving DecidableEq, Repr

namespace Token

/-- the bare word in upper case; empty for every other token -/
def word (t : Token) : String := if t.kind = .word then Text.upper t.text else ""

/-- the token in upper case, unless it is a text -/
def spelled (t : Token) : String := if t.kind = .string then "" else Text.upper t.text

def isSymbol (t : Token) (s : String) : Bool := t.kind = .symbol && t.text = s

end Token

/-! ## Words read together -/

/-- groups of words that are one token -/
def wordGroups : Dialect → List String
  | d =>
    ["PRIMARY KEY", "FOREIGN KEY", "CHARACTER SET", "CHARACTER VARYING", "CHAR VARYING", "DOUBLE PRECISION",
      "GROUP BY", "ORDER BY", "PARTITION BY", "PARTITIONED BY", "CLUSTER BY", "CONNECT BY", "DISTRIBUTE BY", "SORT BY",
      "GROUPING SETS", "SIMILAR TO", "START WITH", "FOR VERSION", "FOR TIMESTAMP", "USER-DEFINED"]
    ++ match d with
      | .mysql => ["LOCK TABLES", "UNLOCK TABLES", "MEMBER OF", "SIGNED INTEGER", "SOUNDS LIKE", "UNSIGNED INTEGER"]
      | .sqlite => ["INDEXED BY"]
      | .postgres => []

/-- operators of more than one character -/
def operators : Dialect → List String
  | d =>
    ["||", "|>", ">=", "<=", "<>", "!=", ":=", "<=>", "->", "->>", "=>", "#>", "#>>", "<->", "&&", "??", "~~~", "~~",
      "~~*", "~*", "::", "?::", "==", "&<", "&>"]
    ++ match d with
      | .postgres => ["@@", "@>", "<@", "?&", "?|", "#-", "|/", "||/", "-|-"]
      | .mysql => ["@@"]
      | .sqlite => []

/-! ## Classes of words -/

/-- words that never stand for a name, unless any token may -/
def reservedWords : Dialect → List String
  | d =>
    ["AS", "AND", "ALTER", "BETWEEN", "CHARACTER SET", "CLUSTER BY", "CONNECT BY", "CREATE", "CROSS", "DISTINCT",
      "DISTRIBUTE BY", "DROP", "ELSE", "EXCEPT", "FETCH", "FOR", "FOREIGN KEY", "FOR TIMESTAMP", "FOR VERSION", "FROM",
      "GLOB", "GRANT", "GROUP BY", "GROUPING SETS", "HAVING", "ILIKE", "IN", "INNER", "INSERT", "INTERSECT", "INTO",
      "JOIN", "LATERAL", "LIKE", "NOT", "NOTNULL", "ON", "OR", "ORDER BY", "OUTER", "PARTITION BY", "PARTITIONED BY",
      "PRIMARY KEY", "QUALIFY", "REGEXP", "RETURNING", "REVOKE", "RLIKE", "SELECT", "SIMILAR TO", "SORT BY",
      "START WITH", "STRAIGHT_JOIN", "TABLESAMPLE", "THEN", "UNION", "USING", "VALUES", "WHEN", "WHERE", "WITH", "XOR"]
    ++ match d with
      | .mysql => ["CHARSET", "DISTINCTROW", "KEY", "MEMBER OF", "MOD", "SEPARATOR", "SOUNDS LIKE"]
      | .sqlite => ["INDEXED BY"]
      | .postgres => []

/-- words with a meaning of their own, which may still stand for a name -/
def softWords : List String :=
    ["ALL", "ANALYZE", "ANY", "ASC", "AUTOINCREMENT", "AUTO_INCREMENT", "BEGIN", "CACHE", "CASE", "COLLATE", "COLUMN",
      "COMMENT", "COMMIT", "CONSTRAINT", "COPY", "CUBE", "CURRENT_DATE", "CURRENT_TIME", "CURRENT_TIMESTAMP",
      "CURRENT_USER", "DATABASE", "DEFAULT", "DELETE", "DESC", "DESCRIBE", "DIV", "END", "ESCAPE", "EXECUTE", "EXISTS",
      "FALSE", "FILTER", "FIRST", "FORMAT", "FULL", "FUNCTION", "INDEX", "IS", "ISNULL", "KEEP", "KILL", "LEFT",
      "LIMIT", "LOAD", "LOCK", "MERGE", "NATURAL", "NEXT", "OFFSET", "ORDINALITY", "OVER", "OVERLAPS", "OVERWRITE",
      "PARTITION", "PERCENT", "PIVOT", "PRAGMA", "PROCEDURE", "RECURSIVE", "REFERENCES", "RENAME", "REPLACE", "RIGHT",
      "ROLLBACK", "ROLLUP", "ROW", "ROWS", "SCHEMA", "SEMI", "SEQUENCE", "SET", "SETTINGS", "SHOW", "SOME", "TABLE",
      "TEMP", "TEMPORARY", "TRIGGER", "TRUE", "TRUNCATE", "UNIQUE", "UNNEST", "UNPIVOT", "UPDATE", "USE", "VIEW",
      "VOLATILE", "WINDOW"]

/-- words that name types in every dialect, with the types they name -/
def commonTypes : List (String × String) :=
  [("BIT", "BIT"), ("BOOL", "BOOLEAN"), ("BOOLEAN", "BOOLEAN"), ("BYTE", "TINYINT"), ("MEDIUMINT", "MEDIUMINT"),
    ("INT1", "TINYINT"), ("TINYINT", "TINYINT"), ("INT16", "SMALLINT"), ("SHORT", "SMALLINT"),
    ("SMALLINT", "SMALLINT"), ("HUGEINT", "INT128"), ("UHUGEINT", "UINT128"), ("INT2", "SMALLINT"),
    ("INTEGER", "INT"), ("INT", "INT"), ("INT4", "INT"), ("INT32", "INT"), ("INT64", "BIGINT"), ("INT128", "INT128"),
    ("INT256", "INT256"), ("LONG", "BIGINT"), ("BIGINT", "BIGINT"), ("INT8", "TINYINT"), ("UINT", "UINT"),
    ("UINT128", "UINT128"), ("UINT256", "UINT256"), ("DEC", "DECIMAL"), ("DECIMAL", "DECIMAL"),
    ("DECIMAL32", "DECIMAL32"), ("DECIMAL64", "DECIMAL64"), ("DECIMAL128", "DECIMAL128"),
    ("DECIMAL256", "DECIMAL256"), ("DECFLOAT", "DECFLOAT"), ("BIGDECIMAL", "BIGDECIMAL"),
    ("BIGNUMERIC", "BIGDECIMAL"), ("LIST", "LIST"), ("MAP", "MAP"), ("NUMBER", "DECIMAL"), ("NUMERIC", "DECIMAL"),
    ("FIXED", "DECIMAL"), ("REAL", "FLOAT"), ("FLOAT", "FLOAT"), ("FLOAT4", "FLOAT"), ("FLOAT8", "DOUBLE"),
    ("DOUBLE", "DOUBLE"), ("DOUBLE PRECISION", "DOUBLE"), ("JSON", "JSON"), ("JSONB", "JSONB"), ("CHAR", "CHAR"),
    ("CHARACTER", "CHAR"), ("CHAR VARYING", "VARCHAR"), ("CHARACTER VARYING", "VARCHAR"), ("NCHAR", "NCHAR"),
    ("VARCHAR", "VARCHAR"), ("VARCHAR2", "VARCHAR"), ("NVARCHAR", "NVARCHAR"), ("NVARCHAR2", "NVARCHAR"),
    ("BPCHAR", "BPCHAR"), ("STR", "TEXT"), ("STRING", "TEXT"), ("TEXT", "TEXT"), ("LONGTEXT", "LONGTEXT"),
    ("MEDIUMTEXT", "MEDIUMTEXT"), ("TINYTEXT", "TINYTEXT"), ("CLOB", "TEXT"), ("LONGVARCHAR", "TEXT"),
    ("BINARY", "BINARY"), ("BLOB", "VARBINARY"), ("LONGBLOB", "LONGBLOB"), ("MEDIUMBLOB", "MEDIUMBLOB"),
    ("TINYBLOB", "TINYBLOB"), ("BYTEA", "VARBINARY"), ("VARBINARY", "VARBINARY"), ("TIME", "TIME"),
    ("TIMETZ", "TIMETZ"), ("TIME_NS", "TIME_NS"), ("TIMESTAMP", "TIMESTAMP"), ("TIMESTAMPTZ", "TIMESTAMPTZ"),
    ("TIMESTAMPLTZ", "TIMESTAMPLTZ"), ("TIMESTAMP_LTZ", "TIMESTAMPLTZ"), ("TIMESTAMPNTZ", "TIMESTAMPNTZ"),
    ("TIMESTAMP_NTZ", "TIMESTAMPNTZ"), ("DATE", "DATE"), ("DATETIME", "DATETIME"), ("INT4RANGE", "INT4RANGE"),
    ("INT4MULTIRANGE", "INT4MULTIRANGE"), ("INT8RANGE", "INT8RANGE"), ("INT8MULTIRANGE", "INT8MULTIRANGE"),
    ("NUMRANGE", "NUMRANGE"), ("NUMMULTIRANGE", "NUMMULTIRANGE"), ("TSRANGE", "TSRANGE"),
    ("TSMULTIRANGE", "TSMULTIRANGE"), ("TSTZRANGE", "TSTZRANGE"), ("TSTZMULTIRANGE", "TSTZMULTIRANGE"),
    ("DATERANGE", "DATERANGE"), ("DATEMULTIRANGE", "DATEMULTIRANGE"), ("VECTOR", "VECTOR"), ("STRUCT", "STRUCT"),
    ("VARIANT", "VARIANT"), ("UUID", "UUID"), ("INET", "INET"), ("INTERVAL", "INTERVAL"), ("ENUM", "ENUM"),
    ("ARRAY", "ARRAY"), ("GEOGRAPHY", "GEOGRAPHY"), ("GEOMETRY", "GEOMETRY"), ("OBJECT", "OBJECT"), ("NULL", "NULL"),
    ("UNKNOWN", "UNKNOWN"), ("NULLABLE", "NULLABLE"), ("RANGE", "RANGE"), ("USER-DEFINED", "USERDEFINED")]

/-- what one dialect adds to the words that name types, or reads in another way -/
def ownTypes : Dialect → List (String × String)
  | .postgres =>
    [("BIGSERIAL", "BIGSERIAL"), ("HSTORE", "HSTORE"), ("INT8", "BIGINT"), ("MONEY", "MONEY"), ("NAME", "NAME"),
      ("POINT", "POINT"), ("SERIAL", "SERIAL"), ("SMALLSERIAL", "SMALLSERIAL"), ("FLOAT", "DOUBLE"), ("XML", "XML"),
      ("`", "UNKNOWN")]
  | .mysql =>
    [("BLOB", "BLOB"), ("SERIAL", "SERIAL"), ("SIGNED", "BIGINT"), ("SIGNED INTEGER", "BIGINT"),
      ("TIMESTAMP", "TIMESTAMPTZ"), ("UNSIGNED", "UBIGINT"), ("UNSIGNED INTEGER", "UBIGINT"), ("YEAR", "YEAR"),
      ("SET", "SET")]
  | .sqlite => [("FLOAT", "DOUBLE"), ("REAL", "DOUBLE"), ("FLOAT4", "DOUBLE")]

/-- the type that a word names in a dialect -/
def Dialect.typeNamed? (d : Dialect) (word : String) : Option String :=
  match (ownTypes d).lookup word with
  | some t => some t
  | none => commonTypes.lookup word

def Dialect.isReserved (d : Dialect) (word : String) : Bool := (reservedWords d).contains word

end Crowfoot.Ddl
