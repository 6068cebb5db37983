import ProfileLexer.Profile.Error
import ProfileLexer.Text.Columns

/-!
The built-in profiles: an imperative, a symbolic and a query language.
-/

namespace ProfileLexer.Builtin

def imperativeKeywords : List String := [
  "False", "None", "True", "and", "as", "assert", "break", "class", "continue", "def", "del",
  "elif", "else", "except", "finally", "for", "from", "global", "if", "import", "in", "is",
  "lambda", "nonlocal", "not", "or", "pass", "raise", "return", "try", "while", "with", "yield",
  "async", "await"]

def imperativeBuiltins : List String := [
  "print", "len", "range", "int", "str", "float", "list", "dict", "set", "tuple", "bool", "open",
  "input", "enumerate", "zip", "map", "filter", "sorted", "reversed", "sum", "min", "max", "abs",
  "isinstance", "type", "super", "iter", "next"]

def imperativeOperators : List String := [
  "+", "-", "*", "/", "//", "%", "**", "=", "+=", "-=", "*=", "/=", "//=", "%=", "**=", "==",
  "!=", "<", ">", "<=", ">=", "<>", "&", "|", "^", "~", "<<", ">>", "&=", "|=", "^=", "<<=",
  ">>=", "!", "@", "@="]

def symbolicKeywords : List String := [
  "define", "define-values", "define-syntax", "define-struct", "define-macro",
  "define-for-syntax", "if", "cond", "case", "when", "unless", "and", "or", "not", "lambda", "λ",
  "procedure?", "apply", "curry", "compose", "let", "let*", "letrec", "let-values", "let*-values",
  "parameterize", "with-handlers", "for", "for/list", "for/vector", "for/hash", "for/sum",
  "for/fold", "for*", "for*/list", "do", "map", "filter", "foldl", "foldr", "andmap", "ormap",
  "eval", "compile", "expand", "syntax-e", "syntax->datum", "datum->syntax", "quote",
  "quasiquote", "unquote", "unquote-splicing", "module", "module*", "module+", "require",
  "provide", "only-in", "except-in", "prefix-in", "rename-in", "syntax-rules", "syntax-case",
  "syntax", "with-syntax", "syntax-parameter", "syntax-parameterize", "contract",
  "define/contract", "provide/contract", "class", "class*", "interface", "mixin", "new",
  "instantiate", "send", "send*", "send/apply", "super", "inner", "raise", "raise-argument-error",
  "raise-type-error", "raise-arity-error", "raise-syntax-error", "call/cc",
  "call-with-current-continuation", "call/ec", "call-with-escape-continuation",
  "with-input-from-file", "with-output-to-file", "call-with-input-file", "call-with-output-file",
  "begin", "begin0", "set!", "values", "void", "time", "match", "match-lambda", "match-let",
  "#lang"]

def symbolicBuiltins : List String := [
  "cons", "car", "cdr", "caar", "cadr", "cdar", "cddr", "caaar", "caadr", "cadar", "caddr",
  "cdaar", "cdadr", "cddar", "cdddr", "list", "list*", "append", "reverse", "length", "list-ref",
  "list-tail", "member", "memq", "memv", "assoc", "assq", "assv", "null?", "pair?", "list?",
  "number?", "complex?", "real?", "rational?", "integer?", "exact?", "inexact?", "zero?",
  "positive?", "negative?", "odd?", "even?", "max", "min", "abs", "quotient", "remainder",
  "modulo", "gcd", "lcm", "numerator", "denominator", "floor", "ceiling", "truncate", "round",
  "exp", "log", "sin", "cos", "tan", "asin", "acos", "atan", "sqrt", "expt", "make-rectangular",
  "make-polar", "real-part", "imag-part", "magnitude", "angle", "exact->inexact",
  "inexact->exact", "string?", "string-length", "string-ref", "string-set!", "string=?",
  "string<?", "string>?", "string<=?", "string>=?", "string-ci=?", "string-ci<?", "string-ci>?",
  "string-ci<=?", "string-ci>=?", "substring", "string-append", "string->list", "list->string",
  "string-copy", "string-fill!", "string->number", "number->string", "string->symbol",
  "symbol->string", "string-upcase", "string-downcase", "char?", "char=?", "char<?", "char>?",
  "char<=?", "char>=?", "char-ci=?", "char-ci<?", "char-ci>?", "char-ci<=?", "char-ci>=?",
  "char-alphabetic?", "char-numeric?", "char-whitespace?", "char-upper-case?", "char-lower-case?",
  "char->integer", "integer->char", "char-upcase", "char-downcase", "vector?", "make-vector",
  "vector", "vector-length", "vector-ref", "vector-set!", "vector->list", "list->vector",
  "vector-fill!", "symbol?", "gensym", "boolean?", "eq?", "eqv?", "equal?", "port?",
  "input-port?", "output-port?", "read", "read-char", "peek-char", "eof-object?", "char-ready?",
  "write", "display", "newline", "write-char", "load", "open-input-file", "open-output-file",
  "close-input-port", "close-output-port", "current-input-port", "current-output-port", "error"]

def symbolicOperators : List String := [
  "+", "-", "*", "/", "=", "<", ">", "<=", ">="]

def queryKeywords : List String := [
  "SELECT", "INSERT", "UPDATE", "DELETE", "WITH", "FROM", "WHERE", "JOIN", "INNER", "LEFT",
  "RIGHT", "FULL", "OUTER", "ON", "USING", "GROUP", "BY", "HAVING", "ORDER", "ASC", "DESC",
  "LIMIT", "OFFSET", "UNION", "INTERSECT", "EXCEPT", "ALL", "DISTINCT", "INTO", "VALUES", "SET",
  "CREATE", "ALTER", "DROP", "TRUNCATE", "RENAME", "TABLE", "VIEW", "INDEX", "SEQUENCE", "SCHEMA",
  "DATABASE", "CONSTRAINT", "PRIMARY", "KEY", "FOREIGN", "REFERENCES", "UNIQUE", "CHECK",
  "DEFAULT", "AUTO_INCREMENT", "ADD", "MODIFY", "CHANGE", "COLUMN", "GRANT", "REVOKE", "DENY",
  "COMMIT", "ROLLBACK", "SAVEPOINT", "BEGIN", "START", "TRANSACTION", "INT", "INTEGER", "BIGINT",
  "SMALLINT", "TINYINT", "DECIMAL", "NUMERIC", "FLOAT", "DOUBLE", "REAL", "CHAR", "VARCHAR",
  "TEXT", "NCHAR", "NVARCHAR", "DATE", "TIME", "DATETIME", "TIMESTAMP", "YEAR", "BOOLEAN", "BOOL",
  "BIT", "BINARY", "VARBINARY", "BLOB", "CLOB", "JSON", "XML", "AND", "OR", "NOT", "IN", "EXISTS",
  "BETWEEN", "LIKE", "ILIKE", "IS", "NULL", "TRUE", "FALSE", "COUNT", "SUM", "AVG", "MIN", "MAX",
  "STDDEV", "VARIANCE", "OVER", "PARTITION", "ROWS", "RANGE", "UNBOUNDED", "PRECEDING",
  "FOLLOWING", "CURRENT", "ROW", "CASE", "WHEN", "THEN", "ELSE", "END", "IF", "ELSEIF", "ENDIF",
  "AS", "ALIAS", "CAST", "CONVERT", "EXTRACT", "SUBSTRING", "TRIM", "COALESCE", "NULLIF",
  "GREATEST", "LEAST", "EXPLAIN", "DESCRIBE", "SHOW", "USE", "CALL", "PROCEDURE", "FUNCTION",
  "TRIGGER", "CURSOR", "DECLARE", "OPEN", "FETCH", "CLOSE", "WHILE", "LOOP", "FOR", "REPEAT",
  "UNTIL", "LEAVE", "ITERATE", "HANDLER", "CONDITION", "SQLSTATE", "SQLEXCEPTION", "SQLWARNING",
  "CONTINUE", "EXIT", "UNDO"]

def queryFunctions : List String := [
  "CONCAT", "LENGTH", "UPPER", "LOWER", "LTRIM", "RTRIM", "TRIM", "SUBSTRING", "SUBSTR",
  "REPLACE", "REVERSE", "LEFT", "RIGHT", "CHARINDEX", "POSITION", "LOCATE", "INSTR", "LPAD",
  "RPAD", "NOW", "CURDATE", "CURTIME", "TODAY", "SYSDATE", "GETDATE", "DATEADD", "DATEDIFF",
  "DATEPART", "YEAR", "MONTH", "DAY", "HOUR", "MINUTE", "SECOND", "DAYOFWEEK", "DAYOFYEAR",
  "WEEK", "QUARTER", "LAST_DAY", "DATE_FORMAT", "STR_TO_DATE", "ABS", "CEIL", "CEILING", "FLOOR",
  "ROUND", "TRUNCATE", "TRUNC", "MOD", "POWER", "POW", "SQRT", "EXP", "LOG", "LOG10", "LN", "SIN",
  "COS", "TAN", "ASIN", "ACOS", "ATAN", "ATAN2", "DEGREES", "RADIANS", "PI", "RAND", "RANDOM",
  "SIGN", "CAST", "CONVERT", "TO_CHAR", "TO_DATE", "TO_NUMBER", "FORMAT", "PARSE", "TRY_CAST",
  "TRY_CONVERT", "COALESCE", "ISNULL", "NULLIF", "IIF", "CHOOSE", "GREATEST", "LEAST",
  "ROW_NUMBER", "RANK", "DENSE_RANK", "NTILE", "PERCENT_RANK", "CUME_DIST", "LAG", "LEAD",
  "FIRST_VALUE", "LAST_VALUE", "NTH_VALUE"]

def queryDatatypes : List String := [
  "VARCHAR2", "NVARCHAR2", "CLOB", "NCLOB", "BLOB", "BFILE", "NUMBER", "BINARY_FLOAT",
  "BINARY_DOUBLE", "TIMESTAMP", "INTERVAL", "RAW", "LONG", "ROWID", "UROWID", "MEDIUMINT",
  "MEDIUMTEXT", "LONGTEXT", "TINYTEXT", "ENUM", "SET", "GEOMETRY", "POINT", "LINESTRING",
  "POLYGON"]

/-- A wildcard `_` is no operator: it would split identifiers. -/
def queryOperators : List String := [
  "+", "-", "*", "/", "%", "=", "==", "!=", "<>", "<", ">", "<=", ">=", "||", "&&", ":=", "+=",
  "-=", "*=", "/=", "!", "@", "::", ":"]

/-- A language with significant words, prefixed strings and numbers in four bases. -/
def imperative : Definition :=
  { Definition.ofId "imperative" with
    aliases := ["python", "py"]
    description := "Python-like imperative language"
    keywords := imperativeKeywords
    builtins := imperativeBuiltins
    operators := imperativeOperators
    delimiters := "()[]\x7b\x7d,:;."
    quotes := "\"'"
    stringLeads := ["f", "r", "b", "u", "rb", "br", "fr", "rf"]
    lineComment := some "#"
    numbers := { NumberForms.standard with hex := true, octal := true, binary := true } }

/-- A language of nested lists, with operators that are identifiers and with quoted symbols. -/
def symbolic : Definition :=
  { Definition.ofId "symbolic" with
    aliases := ["racket", "lisp", "scheme"]
    description := "Racket-like symbolic language"
    operatorBoundary := true
    keywords := symbolicKeywords
    builtins := symbolicBuiltins
    operators := symbolicOperators
    delimiters := "()[]\x7b\x7d."
    quotes := "\""
    lineComment := some ";"
    identifierStart := "+-*/<>=!?:$%&^~@_λ#"
    alphabet := "|\\"
    numbers := { NumberForms.standard with fractions := true, complex := true, signed := true }
    blockComment := some ⟨"#|", "|#", true⟩
    literals := [
      .boolean ["#true", "#false", "#t", "#f"],
      .character "#\\" ["newline", "space", "tab"],
      .quotedSymbol '\'',
      .quotedSymbol '\x60',
      .quotedSymbol ','] }

/-- A language of queries, in which the case of words does not count. -/
def query : Definition :=
  { Definition.ofId "query" with
    aliases := ["sql"]
    description := "SQL-like query language"
    caseRule := .insensitive
    keywords := queryKeywords
    functions := queryFunctions
    datatypes := queryDatatypes
    operators := queryOperators
    delimiters := "()[]\x7b\x7d,;."
    quotes := "\"'\x60"
    stringLeads := ["N"]
    lineComment := some "--"
    alphabet := "#"
    blockComment := some ⟨"/*", "*/", false⟩
    literals := [.sigilName '@'] }

def all : List Definition := [imperative, symbolic, query]

def names : List String := all.map (·.id)

/-- The built-in definition of a name or an alias, in any case and between blanks. No name belongs
to two of them. -/
def find? (name : String) : Option Definition :=
  let wanted := String.ofList (Text.lower (Text.trim name.toList))
  all.find? fun definition => definition.id == wanted || definition.aliases.contains wanted

/-- The built-in definition of a name or an alias, which has to be known. -/
def definition (name : String) : Except ProfileError Definition :=
  match find? name with
  | some definition => .ok definition
  | none => .error (.unknown name (", ".intercalate names))

def load (name : String) : Logged ProfileError Profile := do
  Profile.load (← Logged.ofExcept (definition name))

def profiles : Logged ProfileError (List Profile) :=
  all.mapM Profile.load

def listing (profiles : List Profile) : String :=
  Text.lines <| profiles.map fun profile =>
    Text.alignLeft 11 profile.id ++ " " ++
      Text.alignLeft 22 (", ".intercalate profile.definition.aliases) ++ " " ++
      profile.definition.description

end ProfileLexer.Builtin
