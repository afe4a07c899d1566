/-!
# Sql.Keyword — reserved words

The words that Firebird keeps for itself, in alphabetical order, and the test whether a name is one
of them. The test halves the table until the word is found or nothing is left, which is right
because the table is sorted.
-/

namespace SchemaChange
namespace Sql

def reservedWords : List String :=
  [
    "ADD", "ADMIN", "ALL", "ALTER", "AND", "ANY", "AS", "AT", "AVG", "BEGIN", "BETWEEN", "BIGINT",
    "BLOB", "BOOLEAN", "BOTH", "BY", "CASE", "CAST", "CHAR", "CHARACTER", "CHECK", "CLOSE",
    "COLLATE", "COLUMN", "COMMIT", "CONNECT", "CONSTRAINT", "COUNT", "CREATE", "CROSS", "CURRENT",
    "CURRENT_DATE", "CURRENT_ROLE", "CURRENT_TIME", "CURRENT_TIMESTAMP", "CURRENT_USER", "CURSOR",
    "DATE", "DAY", "DEC", "DECIMAL", "DECLARE", "DEFAULT", "DELETE", "DISCONNECT", "DISTINCT",
    "DOUBLE", "DROP", "ELSE", "END", "ESCAPE", "EXECUTE", "EXISTS", "EXTERNAL", "EXTRACT",
    "FALSE", "FETCH", "FILTER", "FLOAT", "FOR", "FOREIGN", "FROM", "FULL", "FUNCTION", "GLOBAL",
    "GRANT", "GROUP", "HAVING", "HOUR", "IN", "INDEX", "INNER", "INSERT", "INT", "INTEGER",
    "INTO", "IS", "JOIN", "KEY", "LEADING", "LEFT", "LIKE", "MAX", "MERGE", "MIN", "MINUTE",
    "MONTH", "NATIONAL", "NATURAL", "NCHAR", "NO", "NOT", "NULL", "NUMERIC", "OF", "ON", "ONLY",
    "OPEN", "OR", "ORDER", "OUTER", "PARAMETER", "PLAN", "POSITION", "PRECISION", "PRIMARY",
    "PROCEDURE", "REAL", "RECREATE", "REFERENCES", "RETURNING", "REVOKE", "RIGHT", "ROLLBACK",
    "ROW", "ROWS", "SECOND", "SELECT", "SET", "SIMILAR", "SMALLINT", "SOME", "START", "SUM",
    "TABLE", "THEN", "TIME", "TIMESTAMP", "TO", "TRAILING", "TRIGGER", "TRIM", "TRUE", "UNION",
    "UNIQUE", "UNKNOWN", "UPDATE", "USER", "USING", "VALUE", "VALUES", "VARCHAR", "VARIABLE",
    "VARYING", "VIEW", "WHEN", "WHERE", "WHILE", "WITH", "YEAR"
  ]

/-- Binary search in a sorted list; the first argument bounds the number of halvings. -/
def searchSorted (word : String) : Nat → List String → Bool
  | 0, _ => false
  | halvings + 1, words =>
      let half := words.length / 2
      match words.drop half with
      | [] => false
      | middle :: above =>
          if word = middle then true
          else if word < middle then searchSorted word halvings (words.take half)
          else searchSorted word halvings above

/-- Case matters: the table holds upper-case words alone. -/
def isReserved (word : String) : Bool :=
  searchSorted word reservedWords.length reservedWords

end Sql
end SchemaChange
