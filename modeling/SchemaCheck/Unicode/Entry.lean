import SchemaCheck.Unicode.CharSet

namespace SchemaCheck.Unicode

/-- Names are kept in lower case without blanks, hyphens and underscores. -/
structure Entry where
  names : List String
  table : String

def Entry.set (e : Entry) : CharSet := .ofTable e.table

def lookupSet? (entries : List Entry) (name : String) : Option CharSet :=
  (entries.find? fun e => e.names.contains name).map Entry.set

end SchemaCheck.Unicode
