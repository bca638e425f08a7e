/-!
# Trimming, joining and simple tests of texts

Texts are `String`; every function here is stated on the list of characters of its argument, and
the lemma beside it says so.
-/

namespace OData.Text

/-- A list without its longest final run of elements that satisfy `p`. -/
def dropFinal (p : Char → Bool) (cs : List Char) : List Char :=
  (cs.reverse.dropWhile p).reverse

/-- A text without its longest leading run of characters that satisfy `p`. -/
def trimStart (p : Char → Bool) (s : String) : String :=
  String.ofList (s.toList.dropWhile p)

/-- A text without its longest final run of characters that satisfy `p`. -/
def trimEnd (p : Char → Bool) (s : String) : String :=
  String.ofList (dropFinal p s.toList)

@[simp] theorem toList_trimStart (p : Char → Bool) (s : String) :
    (trimStart p s).toList = s.toList.dropWhile p :=
  String.toList_ofList

@[simp] theorem toList_trimEnd (p : Char → Bool) (s : String) :
    (trimEnd p s).toList = dropFinal p s.toList :=
  String.toList_ofList

/-- A text without its trailing slashes. -/
def trimEndSlashes (s : String) : String :=
  trimEnd (· == '/') s

/-- A text without its leading slashes. -/
def trimStartSlashes (s : String) : String :=
  trimStart (· == '/') s

/-- Whether `s` begins with `start`. -/
def beginsWith (start s : String) : Bool :=
  start.toList.isPrefixOf s.toList

/-- Whether `part` occurs somewhere in a list, as consecutive characters. -/
def occursInChars (part : List Char) : List Char → Bool
  | [] => part.isEmpty
  | c :: cs => part.isPrefixOf (c :: cs) || occursInChars part cs

/-- Whether `part` occurs somewhere in `s`, as consecutive characters. -/
def occursIn (part s : String) : Bool :=
  occursInChars part.toList s.toList

/-- A text with its ASCII letters in lower case. Words are only ever compared with ASCII words that
have no other spelling in lower case. -/
def lower (s : String) : String :=
  String.ofList (s.toList.map Char.toLower)

/-- The first `n` characters of a text. -/
def take (n : Nat) (s : String) : String :=
  String.ofList (s.toList.take n)

end OData.Text
