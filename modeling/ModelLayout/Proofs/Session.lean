import Mathlib.Data.List.Induction
import ModelLayout.Editor.Session

/-!
# What is held and told in a session

A session holds documents, and the editor shows what it was told of them last.  Here both are
described by the history of messages alone.  For each document the latest message that had an effect
on it counts, and no other: an opening, a change with at least one text, or a closing.  Whatever the
session holds under the name and whatever the editor was told last about it follow from this message.

## Main definitions

* `Message.effect?`, `latest?` — what a message does to a document, and the last of such effects.
* `published?` — the diagnostics that the editor was told last.
* `toHold`, `toTell` — what is to be held of a text, and what is to be told.
* `Session.Answered` — what one message does to a session.
* `Session.InStep` — a session and its notices follow from the history.

## Main results

* `Session.answered_attend`, `Session.InStep.attend` — one message.
* `Session.inStep_run` — a run of messages.
* `Session.run_consistent` — every step of every session.
-/

namespace ModelLayout
namespace Editor

variable {Name : Type} [DecidableEq Name]

/-! ### The documents that are held -/

namespace Documents

variable {name u : Name} {d e : Document} {ds : Documents Name}

theorem mem_erase : (u, e) ∈ erase name ds ↔ u ≠ name ∧ (u, e) ∈ ds := by
  rw [erase, List.mem_filter, decide_eq_true_eq]
  exact and_comm

/-- What is held after a document was put: the document itself, and the others as they were. -/
theorem mem_put : (u, e) ∈ put name d ds ↔ u = name ∧ e = d ∨ u ≠ name ∧ (u, e) ∈ ds := by
  rw [put, List.mem_cons, mem_erase, Prod.mk.injEq]

/-- The document that was put is found under its name. -/
theorem get?_put : get? (put name d ds) name = some d :=
  List.lookup_cons_self

theorem nodup_erase (h : (ds.map Prod.fst).Nodup) : ((erase name ds).map Prod.fst).Nodup :=
  h.sublist (List.filter_sublist.map _)

theorem nodup_put (h : (ds.map Prod.fst).Nodup) : ((put name d ds).map Prod.fst).Nodup := by
  rw [put, List.map_cons]
  refine List.nodup_cons.2 ⟨?_, nodup_erase h⟩
  intro hmem
  obtain ⟨⟨u, e⟩, hue, rfl⟩ := List.mem_map.1 hmem
  exact (mem_erase.1 hue).1 rfl

end Documents

/-! ### Effects and notices -/

/-- The document that a message is about. -/
def Message.document? : Message Name → Option Name
  | .opened name _ | .changed name _ | .closed name => some name
  | _ => none

/-- What a message does to the document `name`: give it a text, or close it.  A change without texts
does nothing. -/
def Message.effect? (name : Name) : Message Name → Option (Option String)
  | .opened u text => if u = name then some (some text) else none
  | .changed u texts => if u = name then texts.getLast?.map some else none
  | .closed u => if u = name then some none else none
  | _ => none

/-- The last effect on the document `name` in a history of messages. -/
def latest? (history : List (Message Name)) (name : Name) : Option (Option String) :=
  (history.filterMap (Message.effect? name)).getLast?

/-- The diagnostics of the document `name` that a notice tells. -/
def Notice.found? (name : Name) : Notice Name → Option (List Diagnostic)
  | .diagnostics u found => if u = name then some found else none
  | .log _ => none

/-- The diagnostics of the document `name` that were told last. -/
def published? (notices : List (Notice Name)) (name : Name) : Option (List Diagnostic) :=
  (notices.filterMap (Notice.found? name)).getLast?

/-- The offenses that are to be held with a text: those of a fresh review, and none if the text
cannot be parsed. -/
def toHold (grammar : Ruby.Grammar) (rules : Rules) (text : String) : List Offense :=
  (offensesIn grammar rules text).toOption.getD []

/-- What is to be told of a document with the given text, or of one that is closed. -/
def toTell (grammar : Ruby.Grammar) (rules : Rules) : Option String → List Diagnostic
  | none => []
  | some text => (toHold grammar rules text).map fun f =>
      ⟨Editor.range text f.span, f.kind.name, f.message⟩

theorem review_eq (grammar : Ruby.Grammar) (rules : Rules) (text : String) :
    review grammar rules text = ⟨text, toHold grammar rules text⟩ := by
  rw [review, toHold]
  cases offensesIn grammar rules text <;> rfl

theorem diagnostics_review (grammar : Ruby.Grammar) (rules : Rules) (text : String) :
    (review grammar rules text).diagnostics = toTell grammar rules (some text) := by
  rw [review_eq]
  rfl

theorem latest?_concat (history : List (Message Name)) (m : Message Name) (name : Name) :
    latest? (history ++ [m]) name = (m.effect? name).or (latest? history name) := by
  rw [latest?, List.filterMap_append, List.getLast?_append]
  cases h : m.effect? name with
  | none => simp [h, latest?]
  | some text => simp [h]

theorem published?_append (notices more : List (Notice Name)) (name : Name) :
    published? (notices ++ more) name = (published? more name).or (published? notices name) := by
  rw [published?, List.filterMap_append, List.getLast?_append]
  rfl

/-! ### One message -/

namespace Session

variable {grammar : Ruby.Grammar} {rules : Rules} {s : Session Name}

/-- What a message with the given effects does to a session. -/
structure Answered (grammar : Ruby.Grammar) (rules : Rules) (s : Session Name)
    (effect? : Name → Option (Option String)) (out : Outcome Name) : Prop where
  nodup : (s.documents.map Prod.fst).Nodup → (out.session.documents.map Prod.fst).Nodup
  held : ∀ name d, (name, d) ∈ out.session.documents ↔
    effect? name = none ∧ (name, d) ∈ s.documents ∨
      ∃ text, effect? name = some (some text) ∧ d = ⟨text, toHold grammar rules text⟩
  told : ∀ name, published? out.notices name = (effect? name).map (toTell grammar rules)

/-- A message without effect: nothing is told but what the editor logs. -/
theorem answered_unchanged {effect? : Name → Option (Option String)}
    (heffect : ∀ name, effect? name = none) {reply : Option Reply} {notices : List (Notice Name)}
    (hnotices : ∀ name, published? notices name = none) :
    Answered grammar rules s effect? ⟨reply, notices, s⟩ where
  nodup := id
  held := by simp [heffect]
  told := by simp [heffect, hnotices]

/-- What is told of a new text is read off the document that is held then. -/
theorem notices_update (u : Name) (text : String) :
    (s.update grammar rules u text).notices =
      [.diagnostics u (toTell grammar rules (some text))] := by
  simp only [update, publish, Documents.get?_put, diagnostics_review]

theorem answered_update {effect? : Name → Option (Option String)} (u : Name) (text : String)
    (heffect : ∀ name, effect? name = if u = name then some (some text) else none) :
    Answered grammar rules s effect? (s.update grammar rules u text) where
  nodup := Documents.nodup_put
  held := by
    intro name d
    rw [update, Documents.mem_put, heffect, review_eq]
    by_cases hname : u = name
    · subst hname
      simp
    · have hne : name ≠ u := fun h => hname h.symm
      simp [hname, hne]
  told := by
    intro name
    rw [heffect, notices_update]
    by_cases hname : u = name
    · subst hname
      simp [published?, Notice.found?]
    · simp [published?, Notice.found?, hname]

theorem answered_close (u : Name) :
    Answered grammar rules s (fun name => if u = name then some none else none)
      (s.attend grammar rules (.closed u)) where
  nodup := Documents.nodup_erase
  held := by
    intro name d
    rw [attend, Documents.mem_erase]
    by_cases hname : u = name
    · subst hname
      simp
    · have hne : name ≠ u := fun h => hname h.symm
      simp [hname, hne]
  told := by
    intro name
    by_cases hname : u = name
    · subst hname
      simp [attend, published?, Notice.found?, toTell]
    · simp [attend, published?, Notice.found?, hname]

/-- One message. -/
theorem answered_attend (m : Message Name) :
    Answered grammar rules s (fun name => m.effect? name) (s.attend grammar rules m) := by
  cases m with
  | hello => exact answered_unchanged (fun _ => rfl) fun _ => rfl
  | ready => exact answered_unchanged (fun _ => rfl) fun _ => rfl
  | goodbye => exact answered_unchanged (fun _ => rfl) fun _ => rfl
  | opened u text => exact answered_update u text fun _ => rfl
  | closed u => exact answered_close u
  | changed u texts =>
    cases htexts : texts.getLast? with
    | none =>
      simp only [attend, htexts]
      refine answered_unchanged (fun name => ?_) fun _ => rfl
      simp [Message.effect?, htexts]
    | some text =>
      simp only [attend, htexts]
      refine answered_update u text fun name => ?_
      simp [Message.effect?, htexts]

theorem effect?_of_ne {m : Message Name} {name : Name} (h : m.document? ≠ some name) :
    m.effect? name = none := by
  cases m with
  | hello | ready | goodbye => rfl
  | opened u text => exact if_neg fun heq => h (congrArg some heq)
  | changed u texts => exact if_neg fun heq => h (congrArg some heq)
  | closed u => exact if_neg fun heq => h (congrArg some heq)

/-! ### A run of messages -/

/-- The session after some messages. -/
def after (grammar : Ruby.Grammar) (rules : Rules) (s : Session Name) (ms : List (Message Name)) :
    Session Name :=
  ms.foldl (fun s m => (s.attend grammar rules m).session) s

theorem run_concat (s : Session Name) (ms : List (Message Name)) (m : Message Name) :
    run grammar rules s (ms ++ [m]) =
      run grammar rules s ms ++ [(after grammar rules s ms).attend grammar rules m] := by
  induction ms generalizing s with
  | nil => rfl
  | cons first ms ih =>
    rw [List.cons_append, run, run, ih, List.cons_append]
    rfl

theorem after_concat (s : Session Name) (ms : List (Message Name)) (m : Message Name) :
    after grammar rules s (ms ++ [m]) =
      ((after grammar rules s ms).attend grammar rules m).session := by
  rw [after, List.foldl_append]
  rfl

theorem length_run (s : Session Name) (ms : List (Message Name)) :
    (run grammar rules s ms).length = ms.length := by
  induction ms generalizing s with
  | nil => rfl
  | cons m ms ih => rw [run, List.length_cons, List.length_cons, ih]

/-- The first outcomes are those of the first messages. -/
theorem take_run (s : Session Name) (ms : List (Message Name)) (k : Nat) :
    (run grammar rules s ms).take k = run grammar rules s (ms.take k) := by
  induction ms generalizing s k with
  | nil => rw [run, List.take_nil, List.take_nil, run]
  | cons m ms ih =>
    cases k with
    | zero => rfl
    | succ k => rw [run, List.take_succ_cons, List.take_succ_cons, run, ih]

/-- Each outcome leaves the session that comes of the messages up to there. -/
theorem session_of_getElem?_run {s : Session Name} {ms : List (Message Name)} {k : Nat}
    {out : Outcome Name} (h : (run grammar rules s ms)[k]? = some out) :
    out.session = after grammar rules s (ms.take (k + 1)) := by
  induction ms generalizing s k with
  | nil => simp [run] at h
  | cons m ms ih =>
    rw [run] at h
    cases k with
    | zero =>
      rw [List.getElem?_cons_zero, Option.some.injEq] at h
      rw [← h]
      rfl
    | succ k =>
      rw [List.getElem?_cons_succ] at h
      exact ih h

/-- A session and all its notices follow from the history of messages. -/
structure InStep (grammar : Ruby.Grammar) (rules : Rules) (history : List (Message Name))
    (s : Session Name) (notices : List (Notice Name)) : Prop where
  nodup : (s.documents.map Prod.fst).Nodup
  held : ∀ name d, (name, d) ∈ s.documents ↔
    ∃ text, latest? history name = some (some text) ∧ d = ⟨text, toHold grammar rules text⟩
  published : ∀ name, published? notices name = (latest? history name).map (toTell grammar rules)

/-- One message more. -/
theorem InStep.attend {history : List (Message Name)} {notices : List (Notice Name)}
    (h : InStep grammar rules history s notices) (m : Message Name) :
    InStep grammar rules (history ++ [m]) (s.attend grammar rules m).session
      (notices ++ (s.attend grammar rules m).notices) := by
  have hanswered : Answered grammar rules s (fun name => m.effect? name)
      (s.attend grammar rules m) := answered_attend m
  refine ⟨hanswered.nodup h.nodup, ?_, ?_⟩
  · intro name d
    rw [hanswered.held, h.held, latest?_concat]
    cases m.effect? name with
    | none => simp
    | some text => simp
  · intro name
    rw [published?_append, hanswered.told, h.published, latest?_concat]
    cases m.effect? name with
    | none => simp
    | some text => simp

theorem inStep_run (grammar : Ruby.Grammar) (rules : Rules) (ms : List (Message Name)) :
    InStep grammar rules ms (after grammar rules {} ms)
      ((run grammar rules {} ms).flatMap Outcome.notices) := by
  induction ms using List.reverseRecOn with
  | nil => exact ⟨List.nodup_nil, by simp [latest?, after], fun _ => rfl⟩
  | append_singleton ms m ih =>
    rw [run_concat, after_concat, List.flatMap_append, List.flatMap_singleton]
    exact ih.attend m

/-- **What is held and what was told last follow from the latest messages.**  After each message of
a session exactly those documents are held whose latest message with an effect is not a closing,
each once, with the text of that message and the offenses of a fresh review of it.  What the editor
was told last about a document are the diagnostics of these offenses, or none if the document was
closed.  A message about one document leaves every other one alone, in whatever state the session
is. -/
theorem run_consistent (grammar : Ruby.Grammar) (rules : Rules) (ms : List (Message Name)) :
    let outcomes := run grammar rules {} ms
    outcomes.length = ms.length ∧
      (∀ k out, outcomes[k]? = some out →
        (out.session.documents.map Prod.fst).Nodup ∧
        (∀ name d, (name, d) ∈ out.session.documents ↔ ∃ text,
          latest? (ms.take (k + 1)) name = some (some text) ∧
            d = ⟨text, toHold grammar rules text⟩) ∧
        ∀ name, published? ((outcomes.take (k + 1)).flatMap Outcome.notices) name =
          (latest? (ms.take (k + 1)) name).map fun
            | none => []
            | some text => (toHold grammar rules text).map fun f =>
                ⟨Editor.range text f.span, f.kind.name, f.message⟩) ∧
      ∀ (s : Session Name) (m : Message Name) (name : Name), m.document? ≠ some name →
        (∀ d, (name, d) ∈ (s.attend grammar rules m).session.documents ↔
          (name, d) ∈ s.documents) ∧
        ∀ notices, published? (notices ++ (s.attend grammar rules m).notices) name =
          published? notices name := by
  intro outcomes
  refine ⟨length_run _ _, fun k out hout => ?_, fun s m name hne => ?_⟩
  · have hstep := inStep_run grammar rules (ms.take (k + 1))
    have htake : outcomes.take (k + 1) = run grammar rules {} (ms.take (k + 1)) :=
      take_run {} ms (k + 1)
    rw [session_of_getElem?_run hout, htake]
    exact ⟨hstep.nodup, hstep.held, fun name => by rw [hstep.published]; rfl⟩
  · have hanswered : Answered grammar rules s (fun name => m.effect? name)
        (s.attend grammar rules m) := answered_attend m
    have hnone := effect?_of_ne hne
    refine ⟨fun d => by simp [hanswered.held, hnone], fun notices => ?_⟩
    rw [published?_append, hanswered.told, hnone]
    rfl

/-- A class with a declaration that should stand under a section comment. -/
def bareAssociation : SourceFile where
  text := "class A\n  has_one :b\nend\n"
  tree :=
    .node ⟨none, .other, true, ⟨0, 25, ⟨1, 0⟩, ⟨4, 0⟩⟩⟩
      [.node ⟨none, .classDef, true, ⟨0, 24, ⟨1, 0⟩, ⟨3, 3⟩⟩⟩
        [.node ⟨some .name, .constant, true, ⟨6, 7, ⟨1, 6⟩, ⟨1, 7⟩⟩⟩ [],
          .node ⟨some .body, .bodyStatement, true, ⟨10, 20, ⟨2, 2⟩, ⟨2, 12⟩⟩⟩
            [.node ⟨none, .call, true, ⟨10, 20, ⟨2, 2⟩, ⟨2, 12⟩⟩⟩
              [.node ⟨some .method, .identifier, true, ⟨10, 17, ⟨2, 2⟩, ⟨2, 9⟩⟩⟩ [],
                .node ⟨some .arguments, .other, true, ⟨18, 20, ⟨2, 10⟩, ⟨2, 12⟩⟩⟩
                  [.node ⟨none, .other, true, ⟨18, 20, ⟨2, 10⟩, ⟨2, 12⟩⟩⟩ []]]]]]

/-- Two documents are opened and one of them is closed; a change without texts and a second closing
do nothing. -/
def shortHistory : List (Message Nat) :=
  [.opened 1 "", .opened 2 "", .changed 1 ["", bareAssociation.text], .closed 2, .changed 1 [],
    .closed 2]

/-- At the end one document is held, and the editor was told of its offense and that the other has
none. -/
theorem run_consistent_shortHistory :
    let grammar := SourceFile.grammar [bareAssociation]
    let outcomes := run grammar .standard {} shortHistory
    ∃ out, outcomes[5]? = some out ∧
      (1, ⟨bareAssociation.text, bareAssociation.offenses .standard⟩) ∈ out.session.documents ∧
      (∀ d, (2, d) ∉ out.session.documents) ∧
      published? (outcomes.flatMap Outcome.notices) 2 = some [] := by
  intro grammar outcomes
  obtain ⟨hlength, hsteps, -⟩ := run_consistent grammar .standard shortHistory
  have hlast : 5 < outcomes.length := by rw [hlength]; decide
  obtain ⟨-, hheld, hpublished⟩ := hsteps 5 outcomes[5] (List.getElem?_eq_getElem hlast)
  have hone : latest? (shortHistory.take 6) 1 = some (some bareAssociation.text) := by decide
  have htwo : latest? (shortHistory.take 6) 2 = some none := by decide
  have hfound : toHold grammar .standard bareAssociation.text =
      bareAssociation.offenses .standard := by
    have htree : grammar bareAssociation.text = .ok bareAssociation.tree :=
      bareAssociation.grammar_singleton
    rw [toHold, offensesIn, htree]
    rfl
  refine ⟨outcomes[5], List.getElem?_eq_getElem hlast, ?_, ?_, ?_⟩
  · exact (hheld _ _).2 ⟨_, hone, by rw [hfound]⟩
  · intro d hd
    obtain ⟨text, htext, -⟩ := (hheld _ _).1 hd
    rw [htwo] at htext
    cases htext
  · have hall := hpublished 2
    rw [List.take_of_length_le (by rw [hlength]; decide), htwo] at hall
    exact hall

end Session
end Editor
end ModelLayout
