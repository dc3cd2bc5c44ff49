import SchemaCheck.Format.Calendar
import SchemaCheck.Format.Text
import SchemaCheck.Url.Reader

namespace SchemaCheck

inductive Format
  | email
  | uri
  | uuid
  | dateTime
  | date
  | time
  | ipv4
  | ipv6
deriving DecidableEq

namespace Format

def ofKeyword? : String → Option Format
  | "email" => some email
  | "uri" => some uri
  | "url" => some uri
  | "uuid" => some uuid
  | "date-time" => some dateTime
  | "date" => some date
  | "time" => some time
  | "ipv4" => some ipv4
  | "ipv6" => some ipv6
  | _ => none

def keyword : Format → String
  | email => "email"
  | uri => "uri"
  | uuid => "uuid"
  | dateTime => "date-time"
  | date => "date"
  | time => "time"
  | ipv4 => "ipv4"
  | ipv6 => "ipv6"

def isMatch (f : Format) (text : String) : Bool :=
  match f with
  | email => isEmail text.toList
  | uri => (Url.parse? text).isSome
  | uuid => isUuid text.toList
  | dateTime => isDateTime text.toList
  | date => isDate text
  | time => isTime text.toList
  | ipv4 => (Address.octets? text.toList).isSome
  | ipv6 => (Address.groups? text.toList).isSome

theorem ofKeyword?_keyword (f : Format) : ofKeyword? f.keyword = some f := by
  cases f <;> rfl

end Format

end SchemaCheck
