import NotebookCheck.Number.Decimal
import NotebookCheck.Text.Quoted

namespace NotebookCheck

open Number Text

inductive Yaml.Num where
  | whole (n : Int)
  | real (x : Binary64)
  | infinite (negative : Bool)
  | none
deriving Repr, DecidableEq, Inhabited

inductive Yaml where
  | null
  | bool (b : Bool)
  | num (n : Yaml.Num)
  | string (s : String)
  | sequence (items : List Yaml)
  | mapping (entries : List (Yaml × Yaml))
  | tagged (tag : String) (value : Yaml)
deriving Inhabited

namespace Yaml

def Num.same : Num → Num → Bool
  | whole m, whole n => m = n
  | real x, real y => x = y || (x.mantissa = 0 && y.mantissa = 0)
  | infinite p, infinite q => p = q
  | none, none => true
  | _, _ => false

def Num.text : Num → String
  | whole n => toString n
  | real x => x.text
  | infinite false => ".inf"
  | infinite true => "-.inf"
  | none => ".nan"

def bareName (tag : String) : String :=
  match tag.toList with
  | '!' :: c :: rest => String.ofList (c :: rest)
  | _ => tag

/-- The values are equal; the order of a mapping's entries does not matter, and the first argument
bounds how deep the values are. -/
def same : Nat → Yaml → Yaml → Bool
  | 0, _, _ => false
  | _, null, null => true
  | _, bool a, bool b => a = b
  | _, num m, num n => m.same n
  | _, string s, string t => s = t
  | fuel + 1, sequence xs, sequence ys =>
      xs.length = ys.length && (xs.zip ys).all fun p => same fuel p.1 p.2
  | fuel + 1, mapping xs, mapping ys =>
      xs.length = ys.length &&
        xs.all fun x => ys.any fun y => same fuel x.1 y.1 && same fuel x.2 y.2
  | fuel + 1, tagged s x, tagged t y => bareName s = bareName t && same fuel x y
  | _, _, _ => false

def untagged : Yaml → Yaml
  | tagged _ value => untagged value
  | value => value

def plainLayout : DecimalLayout where
  plainFrom := -400
  plainBelow := 400

def plainText (x : Binary64) : String :=
  (if x.negative then "-" else "") ++
    if x.mantissa = 0 then "0.0" else plainLayout.render x.shortest

def Num.found : Num → String
  | whole n => s!"integer `{n}`"
  | real x => s!"floating point `{plainText x}`"
  | infinite false => "floating point `inf`"
  | infinite true => "floating point `-inf`"
  | none => "floating point `NaN`"

def found : Yaml → String
  | null => "unit value"
  | bool b => s!"boolean `{b}`"
  | num n => n.found
  | string s => "string " ++ quoted s
  | sequence _ => "sequence"
  | mapping _ => "map"
  | tagged _ _ => "enum"

def repeatedKey : Yaml → String
  | null => "duplicate entry with null key"
  | bool b => s!"duplicate entry with key `{b}`"
  | num n => "duplicate entry with key " ++ n.text
  | string s => "duplicate entry with key " ++ quoted s
  | _ => "duplicate entry in YAML map"

end Yaml

end NotebookCheck
