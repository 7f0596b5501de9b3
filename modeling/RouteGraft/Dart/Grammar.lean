import RouteGraft.Parsing.Run
import RouteGraft.Dart.Rules

/-!
# The grammar of Dart at work

`grammar` is what a parser needs to know of the rules of Dart.

Two signs could be taken for one another if one is the beginning of the other,
as `>` is of `>=`.  Only signs with a single spelling count.
-/

namespace RouteGraft.Dart

open Parsing (Grammar Lookahead)

/-- Whether one list of characters is longer than another that it starts with. -/
def isLonger (longer shorter : List Char) : Bool :=
  shorter.length < longer.length && shorter.isPrefixOf longer

/-- Whether two terminals are signs of which one is the beginning of the other. -/
def Terminal.isConfusable (t u : Terminal) : Bool :=
  match t.spellings, u.spellings with
  | [a], [b] => isLonger a b || isLonger b a
  | _, _ => false

/-- The terminals that could be taken for one. -/
def Terminal.confusable (t : Terminal) : Lookahead :=
  Terminal.all.foldl (fun l u => if t.isConfusable u then l ||| .one u.symbol else l) 0

/-- The grammar of Dart. -/
def grammar : Grammar :=
  .ofRules Terminal.count (fun c => (Construct.ofNat c).name?.isNone)
    (Construct.all.map Construct.rule) (Terminal.all.map Terminal.confusable).toArray

end RouteGraft.Dart
