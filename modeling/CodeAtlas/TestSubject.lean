/-
  CodeAtlas.TestSubject — what a test exercises.

  Test classes are named after the unit they exercise, and test methods after its member:
  `Tests\FooTest::testBarBaz` exercises `Foo.barBaz`.  Tests that do not follow this convention may
  still be placed by a file and a line.
-/
import CodeAtlas.Text.Lowercase
import CodeAtlas.Text.Segment

namespace CodeAtlas

/-- What a test exercises. -/
inductive TestSubject where
  /-- A line of a file; it stands for every declaration that spans it. -/
  | location (path : String) (line : Nat)
  /-- A named unit or one of its members. -/
  | unit (name : String) (member : Option String)
  deriving DecidableEq, Repr, Inhabited

namespace TestSubject

/-- The text of a subject. -/
def text : TestSubject → String
  | location path line => path ++ ":" ++ toString line
  | unit name (some member) => name ++ "." ++ member
  | unit name none => name

/-- The path of a subject that is a location. -/
def path? : TestSubject → Option String
  | location path _ => some path
  | unit _ _ => none

/-- Locations come first, by path and line; units follow, by name and member (none first). -/
def order : TestSubject → TestSubject → Ordering
  | location p l, location q k => (compare p q).then (compare l k)
  | location _ _, unit _ _ => .lt
  | unit _ _, location _ _ => .gt
  | unit n m, unit k l => (compare n k).then (compare m l)

/-! ## §1. The naming convention -/

/-- The unit that a test class is named after. -/
def unitOf? (className : List Char) : Option (List Char) :=
  let segment := Chars.afterLast (fun c => c == '\\' || c == '.') className
  (Chars.dropSuffix? "Test".toList segment).filter fun u => !u.isEmpty

/-- Lower-cases the first character. -/
def uncapitalize : List Char → List Char
  | [] => []
  | c :: rest => lowerChar c ++ rest

/-- The member that a test method is named after.  A data set behind the method name is no part of
it. -/
def memberOf? (method : List Char) : Option (List Char) :=
  let word := (Chars.words method).head?.getD []
  let rest := (Chars.dropPrefix? "test".toList word).map fun m => m.dropWhile (· == '_')
  (rest.filter fun m => !m.isEmpty).map uncapitalize

/-- The subject that the names of a test tell, if its class follows the convention. -/
def ofConvention? (className method : String) : Option TestSubject :=
  (unitOf? className.toList).map fun u =>
    .unit (String.ofList u) ((memberOf? method.toList).map String.ofList)

end TestSubject
end CodeAtlas
