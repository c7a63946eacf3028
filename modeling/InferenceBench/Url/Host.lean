import InferenceBench.Url.Address
import InferenceBench.Url.Direction
import InferenceBench.Url.Label

/-! # Hosts

A host is a domain or an address. A domain is read after percent decoding: its characters are
folded and composed, and the result is cut into labels. What is written of it is ASCII, and holds
none of the characters that would end the domain or be taken for something else. -/

namespace InferenceBench.Url

/-- The characters that no domain holds. -/
def isForbiddenInDomain (c : Char) : Bool :=
  isControl c ||
    [' ', '#', '%', '/', ':', '<', '>', '?', '@', '[', '\\', ']', '^', '|'].contains c

/-- The labels of a domain; if one of them runs to the left, each must keep to its direction. -/
def domainLabels? (domain : List Char) : Option (List Label) := do
  let folded ← domain.mapM folded?
  let labels ← (Text.partsBy (· = '.') (Text.composed folded.flatten)).mapM Label.ofFolded?
  if labels.any (runsRight ·.characters) && !labels.all (keepsDirection ·.characters) then none
  else some labels

/-- A domain in ASCII. -/
def asciiDomain? (domain : List Char) : Option (List Char) :=
  match domainLabels? domain with
  | some labels =>
    let written := Text.joinWith ['.'] (labels.map Label.written)
    if written.isEmpty || written.any isForbiddenInDomain then none else some written
  | none => none

/-- The text of a host as URLs show it. -/
def hostText? (text : List Char) : Option (List Char) :=
  match text with
  | '[' :: rest =>
    if rest.getLast? = some ']' then (groupAddress? rest.dropLast).map groupAddressText else none
  | _ =>
    match (Utf8.decode? (percentDecode text)).bind asciiDomain? with
    | none => none
    | some domain =>
      if endsInNumber domain then (dottedAddress? domain).map dottedText else some domain

end InferenceBench.Url
