import Descent.Pattern.Property.Binary
import Descent.Unicode.Age

/-! # Characters by version

A version of the standard stands for all characters that it has, and these are today's without those
that came later. -/
namespace Descent.Pattern

open CharSet

/-- A version is called by its two numbers, with or without a point between them. -/
def isVersion (name : String) (version : Nat × Nat) : Bool :=
  name == s!"{version.1}.{version.2}" || name == s!"v{version.1}{version.2}"

/-- What has been given a meaning, and what never will be. -/
def designated : CharSet :=
  union (categories Unicode.Category.assigned) (trait .noncharacter)

def age? (name : String) : Option CharSet :=
  match Unicode.versions.dropWhile (!isVersion name ·) with
  | [] => Option.none
  | _ :: later =>
    some (diff designated (ofRanges (later.flatMap fun (a, b) => Unicode.addedIn a b)))

end Descent.Pattern
