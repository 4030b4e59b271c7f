import LiveConfig.Text.CaseTable
set_option autoImplicit false

/-! Full upper and lower case of a text. -/
namespace LiveConfig.Text

def caseImage (specials : List (Nat × List Nat)) (runs : List CaseRun) (c : Char) : List Char :=
  match specials.lookup c.toNat with
  | some image => image.map Char.ofNat
  | none => [(runs.findSome? fun r => r.image? c).getD c]

def upperChar (c : Char) : List Char := caseImage upperSpecials upperRuns c

def upperChars (cs : List Char) : List Char := cs.flatMap upperChar

def upper (text : String) : String := String.ofList (upperChars text.toList)

/-- Whether the first character that is not passed over is a cased letter. -/
def meetsCased (cs : List Char) : Bool :=
  match cs.dropWhile caseIgnorableRanges.holds with
  | c :: _ => casedRanges.holds c
  | [] => false

/-- A capital sigma that ends a word becomes the final form. The first list holds what stands
before the character, nearest first. -/
def lowerChar (before : List Char) (c : Char) (after : List Char) : List Char :=
  if c = 'Σ' then
    if meetsCased before && !meetsCased after then ['ς'] else ['σ']
  else caseImage lowerSpecials lowerRuns c

def lowerAfter : List Char → List Char → List Char
  | _, [] => []
  | before, c :: rest => lowerChar before c rest ++ lowerAfter (c :: before) rest

def lowerChars (cs : List Char) : List Char := lowerAfter [] cs

def lower (text : String) : String := String.ofList (lowerChars text.toList)

end LiveConfig.Text
