import RouteGraft.CommandLine
import RouteGraft.Proofs.Additions
import RouteGraft.Proofs.Addresses
import RouteGraft.Proofs.Shapes
import RouteGraft.Proofs.Verbatim

/-!
# The line that tells of a route

A call that has made all its steps tells of the route with one line
(`CommandLine.toldLine`), which names the class that was put into the routes.  The line is
printed as markup, and the name of the route is in it as it was given.  So a name with tags
in it loses them, and a name with the end of a style that is not open turns a call that has
written all its sources into one that fails.

The line is right for every name that is verbatim, and for names without colons this is also
needed.  It is one line on the console just if it fits there (`CommandLine.completed_tells`).
-/

namespace RouteGraft

/-! ## Characters of an address -/

namespace Naming

/-- A character of an address is plain and no sign of markup. -/
theorem IsAddressChar.plain {c : Char} (h : IsAddressChar c) :
    Console.IsPlain c ∧ c ≠ '[' ∧ c ≠ ']' ∧ c ≠ ':' := by
  have others : ∀ d ∈ ['\t', '\n', '[', ']', ':'], ¬ IsAddressChar d :=
    Console.forall_of_all (by decide)
  have high : 45 ≤ c.toNat := by
    rcases h with small | rfl
    · simp only [isSmall, isSmallLetter, isDigit, Bool.or_eq_true, Bool.and_eq_true,
        decide_eq_true_eq] at small
      rcases small with ⟨letter, -⟩ | ⟨digit, -⟩
      · exact Nat.le_trans (by decide) (letter : 97 ≤ c.toNat)
      · exact Nat.le_trans (by decide) (digit : 48 ≤ c.toNat)
    · decide
  have other {d : Char} (hd : d ∈ ['\t', '\n', '[', ']', ':']) : c ≠ d :=
    fun eq => others d hd (eq ▸ h)
  refine ⟨⟨?_, other (by simp), other (by simp)⟩, other (by simp), other (by simp), other (by simp)⟩
  simp only [Console.movesCursor, Bool.or_eq_false_iff, decide_eq_false_iff_not]
  omega

end Naming

/-! ## The word in green -/

namespace Console.Markup

theorem piecesFrom_green (cs : List Char) :
    piecesFrom 0 0 ("[green]Added[/green]".toList ++ cs)
      = .tag 0 ⟨"green".toList, none⟩ :: .text "Added".toList ::
          .tag 12 ⟨"/green".toList, none⟩ :: piecesFrom 20 0 cs := by
  have characters : "[green]Added[/green]".toList
      = ['[', 'g', 'r', 'e', 'e', 'n', ']', 'A', 'd', 'd', 'e', 'd',
          '[', '/', 'g', 'r', 'e', 'e', 'n', ']'] := rfl
  rw [characters]
  simp [piecesFrom, tagInside?, startsTag, tagPieces, Tag.ofText, addChar]

/-- Whether or not green is in the table of colours, it is no fault. -/
theorem colorName_green :
    colorName "green".toList = .ok "green".toList ∨
      colorName "green".toList = .error .strangeWord := by
  have small : "green".toList.map Text.lower = "green".toList := rfl
  simp only [colorName, small]
  split
  · exact .inl rfl
  · exact .inr rfl

theorem parse_green :
    Style.parse "green".toList = .ok { color := some "green".toList } ∨
      Style.parse "green".toList = .error .strangeWord := by
  have word : Text.words "green".toList = ["green".toList] := rfl
  have small : "green".toList.map Text.lower = "green".toList := rfl
  have noAttribute : Attribute.ofWord? "green".toList = none := rfl
  rw [Style.parse, if_neg (by decide), word, Style.addWords]
  simp only [small, noAttribute]
  rw [if_neg (by decide), if_neg (by decide), if_neg (by decide)]
  rcases colorName_green with named | strange
  · exact .inl (by rw [named]; rfl)
  · exact .inr (by rw [strange])

theorem normalForm_green : normalForm "green".toList = .ok "green".toList := by
  unfold normalForm Style.normalForm
  rcases parse_green with named | strange
  · rw [named]
    rfl
  · rw [strange]
    rfl

theorem styleError_green : styleError? "green".toList = none := by
  unfold styleError?
  rcases parse_green with named | strange
  · rw [named]
  · rw [strange]

/-- A tag without a slash is opened under the normal form of its name. -/
theorem afterTag_opening {name n : List Char} (opening : name.head? ≠ some '/')
    (normal : normalForm name = .ok n) (position : Nat) (parameters : Option (List Char))
    (opened : List Tag) :
    afterTag position ⟨name, parameters⟩ opened = .ok ⟨⟨n, parameters⟩ :: opened, []⟩ := by
  unfold afterTag
  split
  · next isClosing => exact absurd (congrArg List.head? isClosing) opening
  · rw [normal]

/-- A tag with a slash closes the last tag if that has its name and is no handler. -/
theorem afterTag_closing {name n : List Char} (named : Text.trim name ≠ [])
    (normal : normalForm (Text.trim name) = .ok n) (noHandler : n.head? ≠ some '@')
    (position : Nat) (parameters : Option (List Char)) (opened : List Tag) :
    afterTag position ⟨'/' :: name, parameters⟩ (⟨n, none⟩ :: opened)
      = .ok ⟨opened, [(⟨n, none⟩ : Tag).style]⟩ := by
  simp [afterTag, named, normal, endTag, noHandler]

/-- A line that starts with the word in green goes on with what is rendered on its own. -/
theorem render_green {s : String} {cs : List Char}
    (h : s.toList = "[green]Added[/green]".toList ++ cs) :
    render s = (renderPieces [] (piecesFrom 20 0 cs)).bind fun r =>
      (r.styles.findSome? styleError?).elim (.ok ("Added".toList ++ r.text)) .error := by
  have opening : afterTag 0 ⟨"green".toList, none⟩ [] = .ok ⟨[⟨"green".toList, none⟩], []⟩ :=
    afterTag_opening (by decide) normalForm_green 0 none []
  have closing : afterTag 12 ⟨"/green".toList, none⟩ [⟨"green".toList, none⟩]
      = .ok ⟨[], ["green".toList]⟩ :=
    have named : Text.trim "green".toList ≠ [] := by decide
    afterTag_closing named normalForm_green (by decide) 12 none []
  have added : Emoji.replace (unescape "Added".toList) = "Added".toList := rfl
  rw [render, h, piecesFrom_green, renderPieces, opening]
  dsimp only
  rw [renderPieces, renderPieces, closing]
  dsimp only
  cases renderPieces [] (piecesFrom 20 0 cs) with
  | error e => rfl
  | ok r =>
      simp only [List.nil_append, List.singleton_append, List.findSome?_cons, styleError_green,
        added, Except.bind]
      cases r.styles.findSome? styleError? with
      | none => rfl
      | some e => rfl

end Console.Markup

/-! ## Sources that were written -/

/-- Tools that read sources by their trees. -/
def Toolkit.ofTrees (parse : Bytes → Dart.Node) : Toolkit where
  outliner := fun source => Outline.ofTree source (parse source)

example : Toolkit.ofTrees Dart.Node.ofSource = {} := rfl

/-- A source that was edited was read, and it was written with one text put into it. -/
theorem spliced_of_editSource {t : Toolkit} {d : Disk} {path : String} {i : Insertion}
    (done : (editSource t d path i).error = none) :
    ∃ o edit front back, i.plan t.names path o = .ok edit ∧
      Source.read d path = .ok (front ++ back) ∧
        (Source.write d path (front ++ Utf8.encode edit.text ++ back)).error = none := by
  unfold editSource at done
  split at done
  · cases done
  · next content read =>
      split at done
      · cases done
      · next log changed inserted =>
          have came : (insert t.outliner t.names path i content).2 = .ok changed := by rw [inserted]
          obtain ⟨o, edit, -, planned, applied⟩ := insert_eq_ok.1 came
          obtain ⟨-, -, rfl⟩ := splice_ok applied
          refine ⟨o, edit, content.take edit.offset.toNat, content.drop edit.offset.toNat, planned,
            ?_, Option.map_eq_none_iff.1 done⟩
          rw [List.take_append_drop, read]

/-- Of tasks that were done the first one was done. -/
theorem done_of_performAll {t : Toolkit} {d : Disk} {task : Task} {rest : List Task}
    (done : (Task.performAll t d (task :: rest)).error = none) :
    (task.perform t d).error = none := by
  by_contra failed
  have isSome := Option.isSome_iff_ne_none.2 failed
  rw [Task.performAll_cons_of_error isSome] at done
  exact failed done

namespace CommandLine

open Console Markup
open Dart (Node)

variable {words : List String} {d : Disk} {t : Toolkit} {o : Order} {k : RouteKind} {c : Config}
  {m : RouteMeta} {name : String} {generic : Option String} {width : Option Nat}

/-! ## What the line says -/

/-- The line that is to be printed when a route was added. -/
def toldLine (m : RouteMeta) (name : String) : String :=
  "Added " ++ m.className name ++ " (" ++ Naming.kebab name ++ ")"

/-- What is in front of the name of the route in the line, behind its first word. -/
def beforeName (m : RouteMeta) : List Char := ' ' :: m.typeName.toList

/-- What is behind the name of the route in the line. -/
def behindName (name : String) : List Char := ' ' :: '(' :: ((Naming.kebab name).toList ++ [')'])

/-- The line without its first word. -/
def lineTail (m : RouteMeta) (name : String) : List Char :=
  beforeName m ++ name.toList ++ behindName name

theorem toList_around (start : String) (m : RouteMeta) (name : String) :
    (start ++ " " ++ m.className name ++ " (" ++ Naming.kebab name ++ ")").toList
      = start.toList ++ lineTail m name := by
  have blank : " ".toList = [' '] := rfl
  have opening : " (".toList = [' ', '('] := rfl
  have closing : ")".toList = [')'] := rfl
  simp only [RouteMeta.className, lineTail, beforeName, behindName, String.toList_append, blank,
    opening, closing, List.append_assoc, List.cons_append, List.nil_append]

/-- Around the name there are no signs of markup. -/
theorem plain_beforeName (k : RouteKind) (generic : Option String) :
    ∀ c ∈ beforeName (k.metaFor generic), IsPlain c ∧ c ≠ '[' ∧ c ≠ '\\' ∧ c ≠ ':' := by
  have prefixed : (k.metaFor generic).typeName = k.describe.typeName := by
    unfold RouteKind.metaFor
    split
    · split
      · rfl
      · rfl
    · rfl
  rw [beforeName, prefixed]
  cases k <;> exact forall_of_all (by decide)

theorem plain_behindName (name : String) :
    ∀ c ∈ behindName name, IsPlain c ∧ c ≠ '[' ∧ c ≠ ']' ∧ c ≠ ':' := by
  intro c hc
  rw [behindName, List.mem_cons, List.mem_cons, List.mem_append, List.mem_singleton] at hc
  have around : ∀ c ∈ [' ', '(', ')'], IsPlain c ∧ c ≠ '[' ∧ c ≠ ']' ∧ c ≠ ':' :=
    forall_of_all (by decide)
  rcases hc with rfl | rfl | address | rfl
  · exact around _ (by simp)
  · exact around _ (by simp)
  · exact (Naming.isAddressChar_of_mem_kebab address).plain
  · exact around _ (by simp)

/-! ## Endings -/

/-- The end of a call that tells of a route and of nothing else, on one line. -/
def Ending.Tells (e : Ending) (told : String) : Prop :=
  e = ⟨0, .text (told ++ "\n"), none⟩ ∧ '\n' ∉ told.toList

theorem render_successLine (m : RouteMeta) (name : String) :
    render (successLine m name)
      = (renderPieces [] (piecesFrom 20 0 (lineTail m name))).bind fun r =>
          (r.styles.findSome? styleError?).elim (.ok ("Added".toList ++ r.text)) .error :=
  render_green (toList_around "[green]Added[/green]" m name)

theorem toList_toldLine (m : RouteMeta) (name : String) :
    (toldLine m name).toList = "Added".toList ++ lineTail m name :=
  toList_around "Added" m name

/-- What is printed is told as it is just if it is printed as it is. -/
theorem tells_iff {told : String} (oneLine : '\n' ∉ told.toList) {cs : List Char} :
    (⟨0, .text (printed width cs), none⟩ : Ending).Tells told ↔
      printed width cs = String.ofList (told.toList ++ ['\n']) := by
  rw [← append_break]
  constructor
  · rintro ⟨ending, -⟩
    simpa using ending
  · intro same
    exact ⟨by rw [same], oneLine⟩

/-- The line ends in a bracket, and so not in space. -/
theorem trimEnd_toldLine (m : RouteMeta) (name : String) :
    Text.trimEnd (toldLine m name).toList = (toldLine m name).toList := by
  have shape : (toldLine m name).toList
      = "Added".toList ++ beforeName m ++ name.toList ++ ' ' :: '(' :: (Naming.kebab name).toList
        ++ [')'] := by
    simp [toList_toldLine, lineTail, behindName]
  rw [shape]
  exact Text.trimEnd_concat (by decide)

theorem verbatim_lineTail (generic : Option String) (verbatim : Verbatim name.toList) :
    Verbatim (lineTail (k.metaFor generic) name) :=
  verbatim.append (plain_beforeName k generic) (plain_behindName name)

/-- The line of a verbatim name has nothing but plain characters. -/
theorem plain_toldLine (generic : Option String) (verbatim : Verbatim name.toList) :
    ∀ c ∈ (toldLine (k.metaFor generic) name).toList, IsPlain c := by
  have tail := @verbatim_lineTail k name generic verbatim
  have added : ∀ c ∈ "Added".toList, IsPlain c := forall_of_all (by decide)
  rw [toList_toldLine]
  exact fun c hc => (List.mem_append.1 hc).elim (added c) (tail.plain c)

/-- A verbatim name is told as it is. -/
theorem endingOfSuccess_of_verbatim (width : Option Nat) (generic : Option String)
    (verbatim : Verbatim name.toList) :
    endingOfSuccess width (k.metaFor generic) name
      = ⟨0, .text (printed width (toldLine (k.metaFor generic) name).toList), none⟩ := by
  have tail := @verbatim_lineTail k name generic verbatim
  have rendered : render (successLine (k.metaFor generic) name)
      = .ok (toldLine (k.metaFor generic) name).toList := by
    rw [render_successLine, tail.renderPieces (by simp [lineTail, beforeName]), toList_toldLine]
    rfl
  rw [endingOfSuccess, rendered]

/-- The line of a verbatim name is one line just if it fits. -/
theorem tells_iff_fits (width : Option Nat) (generic : Option String)
    (verbatim : Verbatim name.toList) :
    (endingOfSuccess width (k.metaFor generic) name).Tells (toldLine (k.metaFor generic) name) ↔
      Fits width (toldLine (k.metaFor generic) name).toList := by
  have plain := @plain_toldLine k name generic verbatim
  have oneLine : '\n' ∉ (toldLine (k.metaFor generic) name).toList :=
    fun broken => (plain _ broken).2.2 rfl
  have shown : 0 < cellsOf (toldLine (k.metaFor generic) name).toList := by
    have added : cellsOf "Added".toList = 5 := rfl
    rw [toList_toldLine, cellsOf_append, added]
    omega
  rw [endingOfSuccess_of_verbatim width generic verbatim, tells_iff oneLine]
  constructor
  · intro same
    exact (eq_of_printed_eq (List.Sublist.refl _) oneLine same).2.2
  · intro fits
    exact printed_of_plain plain fits (trimEnd_toldLine _ name) shown

/-- A name without colons is told as it is only if it is verbatim. -/
theorem verbatim_of_tells (noColon : ':' ∉ name.toList)
    (tells : (endingOfSuccess width (k.metaFor generic) name).Tells
      (toldLine (k.metaFor generic) name)) :
    Verbatim name.toList := by
  obtain ⟨ending, oneLine⟩ := tells
  rw [append_break, toList_toldLine] at ending
  rw [toList_toldLine] at oneLine
  generalize isTail : lineTail (k.metaFor generic) name = tail at ending oneLine
  have within : name.toList <:+: tail := ⟨_, _, isTail⟩
  have tailColon : ':' ∉ tail := by
    rw [← isTail, lineTail, List.mem_append, List.mem_append]
    rintro ((colon | colon) | colon)
    · exact (plain_beforeName k generic _ colon).2.2.2 rfl
    · exact noColon colon
    · exact (plain_behindName name _ colon).2.2.2 rfl
  obtain ⟨part, all⟩ := shown_pieces 20 tail
  have noColons : ':' ∉ (piecesFrom 20 0 tail).flatMap Piece.written :=
    fun colon => tailColon ((written_pieces 20 tail).1.subset colon)
  unfold endingOfSuccess at ending
  rw [render_successLine, isTail] at ending
  cases rendered : renderPieces [] (piecesFrom 20 0 tail) with
  | error e =>
      rw [rendered] at ending
      cases ending
  | ok r =>
      rw [rendered, Except.bind] at ending
      cases faults : r.styles.findSome? styleError? with
      | some e =>
          rw [faults] at ending
          cases ending
      | none =>
          rw [faults] at ending
          have printed_ : printed width ("Added".toList ++ r.text)
              = String.ofList ("Added".toList ++ tail ++ ['\n']) := by
            simpa using ending
          rw [text_of_renderPieces rendered noColons] at printed_
          obtain ⟨same, plain, -⟩ := eq_of_printed_eq (part.append_left _) oneLine printed_
          obtain ⟨untagged, unescaped⟩ := all (List.append_cancel_left same)
          have tailVerbatim : Verbatim tail := by
            refine ⟨fun c hc => ?_, untagged, unescaped, Emoji.replace_of_not_mem tailColon⟩
            obtain ⟨still, noTab⟩ := plain c (List.mem_append_right _ hc)
            exact ⟨still, noTab, fun broken => oneLine (List.mem_append_right _ (broken ▸ hc))⟩
          exact tailVerbatim.part tailColon within

/-! ## Calls that add a route -/

/-- A call that adds a route: it selects one kind, its configuration is loaded, and no step
of it fails. -/
structure Completes (words : List String) (d : Disk) (t : Toolkit) (o : Order) (k : RouteKind)
    (c : Config) : Prop where
  called : ∃ verbose, Call.ofWords words = .command verbose (.order o)
  selected : o.kinds = [k]
  loaded : Config.load d o.config = .ok c
  added : (addRoute t c (k.metaFor o.generic) o.name o.ui d).error = none

theorem Completes.ending (h : Completes words d t o k c) (width : Option Nat) :
    (run words d t width).ending = endingOfSuccess width (k.metaFor o.generic) o.name := by
  obtain ⟨verbose, called⟩ := h.called
  simp only [run, called, perform, h.selected, addSelected, h.loaded, h.added]

/-- The class of a route starts with its name. -/
theorem routeClass_names (m : RouteMeta) (name : String) :
    ∃ rest, Fragment.routeClass m name
      = "class " ++ (m.className name ++ (" extends " ++ rest)) := by
  unfold Fragment.routeClass
  simp only [String.append_assoc]
  exact ⟨_, rfl⟩

theorem Completes.spliced (h : Completes words d t o k c) :
    ∃ front back rest, Source.read d c.routesPath = .ok (front ++ back) ∧
      (Source.write d c.routesPath (front ++ Utf8.encode ("\n\n" ++ ("class "
        ++ ((k.metaFor o.generic).className o.name ++ (" extends " ++ rest)))) ++ back)).error
          = none := by
  obtain ⟨outline, edit, front, back, planned, read, written⟩ :=
    spliced_of_editSource (done_of_performAll h.added)
  rw [Insertion.plan, Insertion.planRouteClass] at planned
  split at planned
  · cases planned
  · cases planned
    obtain ⟨rest, named⟩ := routeClass_names (k.metaFor o.generic) o.name
    rw [named] at written
    exact ⟨front, back, rest, read, written⟩

/-- What a call tells that adds a route.  The class it has put into the routes is named in the
line, which is printed with the exit code zero if the name of the route is verbatim, and on one
line just if it fits on the console.  For names without colons nothing but a verbatim name is
told on one line as it is.  A call whose name is not verbatim either ends with the exit code zero
as well, or with an error in the markup of the line, though its sources are written. -/
theorem completed_tells (h : Completes words d t o k c) (width : Option Nat) :
    let m := k.metaFor o.generic
    let told := toldLine m o.name
    let ending := (run words d t width).ending
    (∃ front back rest, Source.read d c.routesPath = .ok (front ++ back) ∧
      (Source.write d c.routesPath (front
        ++ Utf8.encode ("\n\n" ++ ("class " ++ (m.className o.name ++ (" extends " ++ rest))))
        ++ back)).error = none) ∧
      (Verbatim o.name.toList → ending = ⟨0, .text (printed width told.toList), none⟩ ∧
        (ending.Tells told ↔ Fits width told.toList)) ∧
      (':' ∉ o.name.toList → ending.Tells told → Verbatim o.name.toList) ∧
      ((ending.code = 0 ∧ ending.escape = none) ∨
        ∃ e, render (successLine m o.name) = .error e ∧ ending = .passedOn (.markup e)) := by
  refine ⟨h.spliced, ?_, ?_, ?_⟩
  · intro verbatim
    rw [h.ending width]
    exact ⟨endingOfSuccess_of_verbatim width _ verbatim, tells_iff_fits width _ verbatim⟩
  · intro noColon tells
    rw [h.ending width] at tells
    exact verbatim_of_tells noColon tells
  · rw [h.ending width, endingOfSuccess]
    cases render (successLine (k.metaFor o.generic) o.name) with
    | ok cs => exact .inl ⟨rfl, rfl⟩
    | error e => exact .inr ⟨e, rfl, rfl⟩

/-- The tree of an empty class `A` that extends `NavPage`. -/
def pageTree : Node :=
  .mk .program true none ⟨0, 25⟩
    [.construct .classDefinition 0 25
      [.token .class_ 0 5, (Node.plainName 6 7).withField .name,
        .construct .superclass 8 23 [.token .extends_ 8 15, .typeName 16 23],
        (Node.construct .classBody 23 25
          [.token .openBrace 23 24, .token .closeBrace 24 25]).withField .body]]

/-- Reads the source of this class and the one of a mapper without routers, which differ in
length. -/
def smallTools : Toolkit :=
  .ofTrees fun source =>
    if source.length = 25 then pageTree else Node.mapperTree (.bracketed 44 46 44 [] [])

/-- A disk with a configuration and two sources. -/
def smallProject (routes : String) : Disk :=
  ⟨[], [(["mad_navigation.json"], .file (Utf8.encode
      ("\x7b\"routesPath\":\"r\",\"routeMapperPath\":\"m\",\"addToService\":false\x7d"))),
    (["r"], .file (Utf8.encode routes)), (["m"], .file (mapperSource "[]"))]⟩

/-- A disk with this class in its routes. -/
def pageProject : Disk := smallProject "class A extends NavPage\x7b\x7d"

/-- The configuration on such a disk. -/
def smallConfig : Config := ⟨"r", "m", none, none, false⟩

/-- A call that adds a page of some name. -/
def pageCall (name : String) : List String := ["add-route", "--page", "-n", name]

/-- What it asks for. -/
def pageOrder (name : String) : Order := ⟨name, [.page], none, none, "mad_navigation.json"⟩

theorem completes_pageCall
    (called : Call.ofWords (pageCall name) = .command false (.order (pageOrder name)))
    (added : (addRoute smallTools smallConfig (RouteKind.page.metaFor none) name none
      pageProject).error = none) :
    Completes (pageCall name) pageProject smallTools (pageOrder name) .page smallConfig := by
  have loaded : Config.load pageProject "mad_navigation.json" = .ok smallConfig := by
    decide +kernel
  exact ⟨⟨false, called⟩, rfl, loaded, added⟩

/-- The name has brackets, but there is no tag between them.  The line takes 30 cells, so it is one
line on a console of 80 cells, and on one of 29 it is not. -/
theorem completed_tells_list :
    Completes (pageCall "List[Int]") pageProject smallTools (pageOrder "List[Int]") .page
        smallConfig ∧
      (run (pageCall "List[Int]") pageProject smallTools (some 80)).ending
        = ⟨0, .text "Added PageList[Int] (list-int)\n", none⟩ ∧
      ¬ (run (pageCall "List[Int]") pageProject smallTools (some 29)).ending.Tells
        "Added PageList[Int] (list-int)" := by
  have completes := @completes_pageCall "List[Int]" (by decide +kernel) (by decide +kernel)
  have verbatim : Verbatim "List[Int]".toList := by
    exact ⟨forall_of_all (by decide), (written_pieces 0 _).2 (by decide),
      unescape_eq_self.1 (by decide), Emoji.replace_of_not_mem (by decide)⟩
  have told : toldLine (RouteKind.page.metaFor none) "List[Int]"
      = "Added PageList[Int] (list-int)" := by decide +kernel
  have cells : cellsOf "Added PageList[Int] (list-int)".toList = 30 := by decide +kernel
  have fits (width : Nat) :
      Fits (some width) "Added PageList[Int] (list-int)".toList ↔ 30 ≤ width := by
    rw [Fits, ← cells]
    exact ⟨fun fits => fits width rfl, fun fits w hw => Option.mem_some.1 hw ▸ fits⟩
  have tells (width : Nat) :
      (run (pageCall "List[Int]") pageProject smallTools (some width)).ending.Tells
        "Added PageList[Int] (list-int)" ↔ 30 ≤ width := by
    rw [← fits, ← told]
    exact ((completed_tells completes (some width)).2.1 verbatim).2
  have wide := (tells 80).2 (by decide)
  have narrow := mt (tells 29).1 (by decide)
  exact ⟨completes, wide.1, narrow⟩

/-- The start of a style in the name is not shown, and the end of one that is not open fails a
call that has made all its steps. -/
theorem completes_without_line :
    (Completes (pageCall "A[bold]B") pageProject smallTools (pageOrder "A[bold]B") .page
        smallConfig ∧
        (run (pageCall "A[bold]B") pageProject smallTools (some 80)).ending
          = ⟨0, .text "Added PageAB (a-bold-b)\n", none⟩) ∧
      Completes (pageCall "A[/]") pageProject smallTools (pageOrder "A[/]") .page smallConfig ∧
        (run (pageCall "A[/]") pageProject smallTools (some 80)).ending
          = .passedOn (.markup (.nothingOpen 26)) := by
  have bold := @completes_pageCall "A[bold]B" (by decide +kernel) (by decide +kernel)
  have closing := @completes_pageCall "A[/]" (by decide +kernel) (by decide +kernel)
  refine ⟨⟨bold, ?_⟩, closing, ?_⟩
  · have rest :
        renderPieces [] (piecesFrom 20 0 (lineTail (RouteKind.page.metaFor none) "A[bold]B"))
          = .ok ⟨" PageAB (a-bold-b)".toList, ["bold".toList]⟩ := by
      decide +kernel
    have styled : ["bold".toList].findSome? styleError? = none := by
      decide +kernel
    have tag : render (successLine (RouteKind.page.metaFor none) "A[bold]B")
        = .ok "Added PageAB (a-bold-b)".toList := by
      rw [render_successLine, rest, Except.bind, styled]
      rfl
    have shown : printed (some 80) "Added PageAB (a-bold-b)".toList
        = "Added PageAB (a-bold-b)\n" := by
      decide +kernel
    have ending : endingOfSuccess (some 80) (RouteKind.page.metaFor none) "A[bold]B"
        = ⟨0, .text "Added PageAB (a-bold-b)\n", none⟩ := by
      rw [endingOfSuccess, tag, ← shown]
    exact (bold.ending _).trans ending
  · have rest : renderPieces [] (piecesFrom 20 0 (lineTail (RouteKind.page.metaFor none) "A[/]"))
        = .error (.nothingOpen 26) := by
      decide +kernel
    have ending : endingOfSuccess (some 80) (RouteKind.page.metaFor none) "A[/]"
        = .passedOn (.markup (.nothingOpen 26)) := by
      rw [endingOfSuccess, render_successLine, rest, Except.bind]
    exact (closing.ending _).trans ending

end CommandLine

end RouteGraft
