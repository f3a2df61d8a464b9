import QueryPipe.Text.Blank

/-!
# Keywords

The words of statements that a layout knows, in capitals and with single spaces. Some start a
clause on a line of its own, some start a line inside a clause, and the others only are printed in
capitals. Of two keywords that start alike the one with more words is meant.

* `rank?_none_iff`: a phrase without a rank is in none of the lists.
-/

namespace QueryPipe.Layout

/-- What a keyword does to the layout. -/
inductive Rank
  /-- It starts a clause, whose parts may be indented below it. -/
  | clause
  /-- It stands between statements and indents nothing. -/
  | divider
  /-- It starts a line inside a clause that is too long for one. -/
  | connective
  /-- Nothing. -/
  | plain
  deriving DecidableEq, Repr, Inhabited

/-- Keywords that start a clause; every join is one. -/
def clauseWords : List String :=
  ["ADD", "AFTER", "ALTER COLUMN", "ALTER TABLE", "DELETE FROM", "EXCEPT", "FETCH FIRST", "FROM",
   "GROUP BY", "GO", "HAVING", "INSERT INTO", "INSERT", "LIMIT", "MODIFY", "ORDER BY",
   "PARTITION BY", "RETURNING", "SELECT DISTINCT", "SELECT ALL", "SELECT", "SET", "UPDATE",
   "VALUES", "WHERE", "WINDOW", "JOIN", "INNER JOIN", "CROSS JOIN", "LEFT JOIN", "LEFT OUTER JOIN",
   "RIGHT JOIN", "RIGHT OUTER JOIN", "FULL JOIN", "FULL OUTER JOIN"]

/-- Keywords between statements. -/
def dividerWords : List String :=
  ["WITH", "UNION ALL", "UNION", "INTERSECT ALL", "INTERSECT", "MINUS", "BEGIN", "DECLARE"]

/-- Keywords that start a line inside a clause. -/
def connectiveWords : List String :=
  ["AND", "OR", "XOR", "WHEN", "ELSE", "DROP", "ALTER", "VALIDATE", "ENABLE", "DISABLE"]

/-- All other keywords. -/
def plainWords : List String :=
  ["ON CONFLICT", "ON CONSTRAINT", "ON DELETE", "ON UPDATE", "CHARACTER SET", "DISTINCT FROM",
   "PARTITIONED BY", "ACCESSIBLE", "ACTION", "AGAINST", "AGGREGATE", "ALGORITHM", "ALL", "ALTER",
   "ANALYSE", "ANALYZE", "AS", "ASC", "AUTOCOMMIT", "AUTO_INCREMENT", "BACKUP", "BETWEEN",
   "BINLOG", "BOTH", "CASCADE", "CASE", "CHANGE", "CHANGED", "CHARSET", "CHECK", "CHECKSUM",
   "COLLATE", "COLLATION", "COLUMN", "COLUMNS", "COMMENT", "COMMIT", "COMMITTED", "COMPRESSED",
   "CONCURRENT", "CONSTRAINT", "CONTAINS", "CONVERT", "CREATE", "CROSS", "CURRENT_TIMESTAMP",
   "DATABASE", "DATABASES", "DAY", "DAY_HOUR", "DAY_MINUTE", "DAY_SECOND", "DEFAULT", "DEFINER",
   "DELAYED", "DELETE", "DESC", "DESCRIBE", "DETERMINISTIC", "DISTINCT", "DISTINCTROW", "DIV",
   "DO", "DROP", "DUMPFILE", "DUPLICATE", "DYNAMIC", "ELSE", "ENCLOSED", "END", "ENGINE",
   "ENGINES", "ENGINE_TYPE", "ESCAPE", "ESCAPED", "EVENTS", "EXEC", "EXECUTE", "EXISTS", "EXPLAIN",
   "EXTENDED", "FAST", "FETCH", "FIELDS", "FILE", "FIRST", "FIXED", "FLUSH", "FOR", "FORCE",
   "FOREIGN", "FULL", "FULLTEXT", "FUNCTION", "GLOBAL", "GRANT", "GRANTS", "GROUP_CONCAT", "HEAP",
   "HIGH_PRIORITY", "HOSTS", "HOUR", "HOUR_MINUTE", "HOUR_SECOND", "IDENTIFIED", "IF", "IFNULL",
   "IGNORE", "IN", "INDEX", "INDEXES", "INFILE", "INSERT", "INSERT_ID", "INSERT_METHOD",
   "INTERVAL", "INTO", "INVOKER", "IS", "ISOLATION", "KEY", "KEYS", "KILL", "LAST_INSERT_ID",
   "LEADING", "LEVEL", "LIKE", "LINEAR", "LINES", "LOAD", "LOCAL", "LOCK", "LOCKS", "LOGS",
   "LOW_PRIORITY", "MARIA", "MASTER", "MASTER_CONNECT_RETRY", "MASTER_HOST", "MASTER_LOG_FILE",
   "MATCH", "MAX_CONNECTIONS_PER_HOUR", "MAX_QUERIES_PER_HOUR", "MAX_ROWS", "MAX_UPDATES_PER_HOUR",
   "MAX_USER_CONNECTIONS", "MEDIUM", "MERGE", "MINUTE", "MINUTE_SECOND", "MIN_ROWS", "MODE",
   "MODIFY", "MONTH", "MRG_MYISAM", "MYISAM", "NAMES", "NATURAL", "NOT", "NOW()", "NULL", "OFFSET",
   "ON", "ONLY", "OPEN", "OPTIMIZE", "OPTION", "OPTIONALLY", "OUTFILE", "PACK_KEYS", "PAGE",
   "PARTIAL", "PARTITION", "PARTITIONS", "PASSWORD", "PRIMARY", "PRIVILEGES", "PROCEDURE",
   "PROCESS", "PROCESSLIST", "PURGE", "QUICK", "RAID0", "RAID_CHUNKS", "RAID_CHUNKSIZE",
   "RAID_TYPE", "RANGE", "READ", "READ_ONLY", "READ_WRITE", "REFERENCES", "REGEXP", "RELOAD",
   "RENAME", "REPAIR", "REPEATABLE", "REPLACE", "REPLICATION", "RESET", "RESTORE", "RESTRICT",
   "RETURN", "RETURNS", "REVOKE", "RLIKE", "ROLLBACK", "ROW", "ROWS", "ROW_FORMAT", "SECOND",
   "SECURITY", "SEPARATOR", "SERIALIZABLE", "SESSION", "SHARE", "SHOW", "SHUTDOWN", "SLAVE",
   "SONAME", "SOUNDS", "SQL", "SQL_AUTO_IS_NULL", "SQL_BIG_RESULT", "SQL_BIG_SELECTS",
   "SQL_BIG_TABLES", "SQL_BUFFER_RESULT", "SQL_CACHE", "SQL_CALC_FOUND_ROWS", "SQL_LOG_BIN",
   "SQL_LOG_OFF", "SQL_LOG_UPDATE", "SQL_LOW_PRIORITY_UPDATES", "SQL_MAX_JOIN_SIZE",
   "SQL_NO_CACHE", "SQL_QUOTE_SHOW_CREATE", "SQL_SAFE_UPDATES", "SQL_SELECT_LIMIT",
   "SQL_SLAVE_SKIP_COUNTER", "SQL_SMALL_RESULT", "SQL_WARNINGS", "START", "STARTING", "STATUS",
   "STOP", "STORAGE", "STRAIGHT_JOIN", "STRING", "STRIPED", "SUPER", "TABLE", "TABLES",
   "TBLPROPERTIES", "TEMPORARY", "TERMINATED", "THEN", "TO", "TRAILING", "TRANSACTIONAL", "TRUE",
   "TRUNCATE", "TYPE", "TYPES", "UNCOMMITTED", "UNIQUE", "UNLOCK", "UNSIGNED", "USAGE", "USE",
   "VARIABLES", "VIEW", "WHEN", "WORK", "WRITE", "YEAR_MONTH"]

/-- The rank of a phrase in capitals, if it is a keyword. -/
def rank? (phrase : String) : Option Rank :=
  if clauseWords.contains phrase then some .clause
  else if dividerWords.contains phrase then some .divider
  else if connectiveWords.contains phrase then some .connective
  else if plainWords.contains phrase then some .plain
  else none

/-- A phrase without a rank is in none of the lists of keywords. -/
theorem rank?_none_iff (phrase : String) :
    rank? phrase = none ↔
      phrase ∉ clauseWords ∧ phrase ∉ dividerWords ∧ phrase ∉ connectiveWords ∧
        phrase ∉ plainWords := by
  by_cases hclause : phrase ∈ clauseWords
  · simp [rank?, hclause]
  by_cases hdivider : phrase ∈ dividerWords
  · simp [rank?, hclause, hdivider]
  by_cases hconnective : phrase ∈ connectiveWords
  · simp [rank?, hclause, hdivider, hconnective]
  · simp [rank?, hclause, hdivider, hconnective]

end QueryPipe.Layout
