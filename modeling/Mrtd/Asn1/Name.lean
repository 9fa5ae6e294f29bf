import Mrtd.Asn1.Reader
import Mrtd.Text.Utf8

/-!
Names of subjects and issuers: relative names in encoding order, each a set of attributes, and
their text form.
-/

namespace Mrtd.Asn1

/-- One attribute of a name. -/
structure Attribute where
  type : ObjectIdentifier
  value : Element
deriving DecidableEq, Repr

/-- A name: the attributes of each relative name. -/
abbrev Name := List (List Attribute)

namespace Attribute

/-- The short names of the attribute types in use. -/
def shortNames : List (String × String) := [
  ("2.5.4.3", "CN"), ("2.5.4.6", "C"), ("2.5.4.7", "L"), ("2.5.4.8", "ST"), ("2.5.4.10", "O"),
  ("2.5.4.11", "OU"), ("0.9.2342.19200300.100.1.25", "DC"), ("1.2.840.113549.1.9.1", "Email"),
  ("2.5.4.4", "surname"), ("2.5.4.5", "serialNumber"), ("2.5.4.9", "streetAddress"),
  ("2.5.4.12", "title"), ("2.5.4.13", "description"), ("2.5.4.15", "businessCategory"),
  ("2.5.4.17", "postalCode"), ("2.5.4.41", "name"), ("2.5.4.42", "givenName"),
  ("2.5.4.43", "initials"), ("2.5.4.44", "generationQualifier"), ("2.5.4.45", "uniqueIdentifier"),
  ("2.5.4.46", "dnQualifier"), ("0.9.2342.19200300.100.1.1", "uid"),
  ("1.2.840.113549.1.9.2", "unstructuredName"),
  ("1.3.6.1.4.1.311.60.2.1.3", "msJurisdictionCountry")]

/-- The type of an attribute in text: its short name, or the identifier itself. -/
def typeText (a : Attribute) : String :=
  let oid := a.type.dotted
  match shortNames.lookup oid with
  | some name => name
  | none => "OID(" ++ oid ++ ")"

/-- The string types whose contents are read as UTF-8. -/
def isOctetText (number : Nat) : Bool :=
  [TagNumber.numericString, TagNumber.visibleString, TagNumber.printableString,
    TagNumber.generalString, TagNumber.objectDescriptor, TagNumber.graphicString,
    TagNumber.t61String, TagNumber.videotexString, TagNumber.utf8String,
    TagNumber.ia5String].contains number

/-- The value of an attribute in text, without any escaping. Values of other types are shown in
upper-case hexadecimal. -/
def valueText? (a : Attribute) : Option String :=
  let number := a.value.number
  if isOctetText number then Text.ofUtf8? a.value.content
  else if number = TagNumber.bmpString then Text.ofUtf16? a.value.content
  else some a.value.content.toUpperHex

/-- An attribute in text. -/
def text? (a : Attribute) : Option String :=
  a.valueText?.map fun value => a.typeText ++ "=" ++ value

/-- The attribute type for countries. -/
def countryType : ObjectIdentifier := ⟨[0x55, 0x04, 0x06]⟩

/-- The value as a country code; only the plain string types count. -/
def countryText? (a : Attribute) : Option String :=
  if [TagNumber.numericString, TagNumber.printableString, TagNumber.utf8String,
      TagNumber.ia5String].contains a.value.number then
    Text.ofUtf8? a.value.content
  else none

end Attribute

namespace Name

/-- Reads one relative name, which holds at least one attribute; attributes after the first that
cannot be read are passed over. -/
def relative : Reader (List Attribute) := do
  let attributes ← Reader.set (Reader.all (Reader.sequence do
    let type ← Reader.objectIdentifier
    let value ← Reader.element
    pure ⟨type, value⟩))
  Reader.ensure (!attributes.isEmpty)
  pure attributes

/-- Reads a name. Relative names after the first that cannot be read are passed over. -/
def reader : Reader Name :=
  Reader.sequence (Reader.all relative)

/-- Attributes are joined by ` + ` and relative names by `, `. A value that is not text of its type
spoils the whole name. -/
def text (n : Name) : String :=
  match n.mapM fun attributes => (attributes.mapM Attribute.text?).map (" + ".intercalate ·) with
  | some relatives => ", ".intercalate relatives
  | none => "<X509Error: Invalid X.509 name>"

/-- The first country attribute. -/
def country (n : Name) : Option String :=
  match n.flatten.find? (·.type == Attribute.countryType) with
  | some a => a.countryText?
  | none => none

end Name

end Mrtd.Asn1
