/-!
# Columns

The components of a name are gathered in ten columns.

* `Column`, `Column.all`, `Column.name`;
* `Column.ofComponent`: the column of a component.
-/

namespace NameTagger

/-- The columns. -/
inductive Column where
  | honorific
  | givenName
  | middleName
  | surname
  | suffix
  | nickname
  | corporationName
  | corporationType
  | organization
  | other
deriving DecidableEq, Repr

namespace Column

/-- All columns in order. -/
def all : List Column :=
  [.honorific, .givenName, .middleName, .surname, .suffix, .nickname, .corporationName,
    .corporationType, .organization, .other]

/-- The name of a column. -/
def name : Column → String
  | .honorific => "prefix"
  | .givenName => "given_name"
  | .middleName => "middle_name"
  | .surname => "surname"
  | .suffix => "suffix"
  | .nickname => "nickname"
  | .corporationName => "corporation_name"
  | .corporationType => "corporation_type"
  | .organization => "organization"
  | .other => "other"

/-- The columns of single components. -/
def components : List (String × Column) := [
  ("GivenName", .givenName),
  ("FirstInitial", .givenName),
  ("MiddleName", .middleName),
  ("MiddleInitial", .middleName),
  ("Surname", .surname),
  ("LastInitial", .surname),
  ("Nickname", .nickname),
  ("CorporationName", .corporationName),
  ("ShortForm", .corporationName),
  ("CorporationLegalType", .corporationType),
  ("CorporationNameOrganization", .organization),
  ("CorporationNameAndCompany", .organization),
  ("CorporationCommitteeType", .organization),
  ("CorporationNameBranchType", .organization),
  ("CorporationNameBranchIdentifier", .organization)]

/-- Whether a text begins with another one. -/
def begins (start text : String) : Bool := start.toList.isPrefixOf text.toList

/-- The column of a component.  All kinds of titles before and of additions behind a name share
a column, and so do all components that are not listed. -/
def ofComponent (component : String) : Column :=
  if begins "Prefix" component then .honorific
  else if begins "Suffix" component then .suffix
  else (components.lookup component).getD .other

end Column

end NameTagger
