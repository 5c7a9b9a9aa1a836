import FilingName.Display
import FilingName.Proofs.Console.Line
import FilingName.Proofs.Template.Format
import FilingName.Proofs.Text
import Mathlib.Algebra.BigOperators.Group.List.Lemmas
import Mathlib.Algebra.GroupWithZero.Nat

/-! Summaries of warnings. A summary names the number of warnings and lists each of them once, with
the number of times that it came up. -/
namespace FilingName.Display
open Console (SingleLine print unlines)
open Text (ListsOnce)

/-- The lines that sum messages up, none where there is no message. -/
inductive IsSummary (messages : List Text) : Text → Prop
  | nothing : messages = [] → IsSummary messages []
  | listing {once : List Text} : messages ≠ [] → ListsOnce (· = ·) messages once →
      IsSummary messages (unlines
        ([] :: ("Template warnings (".toList ++ Text.ofNat messages.length ++ "):".toList) ::
          once.map fun message =>
            "  ⚠ ".toList ++ message ++ repetition (messages.count message)))

private theorem kept_isDigit : Console.Kept Text.isDigit where
  newline := by decide
  tab := by decide
  space := by decide
  control := Console.forall_movesCursor.mpr (by decide)

private theorem singleLine_ofNat (n : Nat) : SingleLine (Text.ofNat n) :=
  .of_kept kept_isDigit fun _ hc => Template.isDigit_of_mem_ofNat hc

private theorem singleLine_repetition (count : Nat) : SingleLine (repetition count) := by
  rw [repetition]
  split
  · exact .append (.append (by decide) (singleLine_ofNat count)) (by decide)
  · exact List.forall_mem_nil _

private theorem listsOnce_distinct_messages (messages : List Text) :
    ListsOnce (· = ·) messages (Text.distinct messages) := by
  have hlists := Text.listsOnce_distinct (f := some) (fun x t => Option.some_inj) messages
  rwa [List.filterMap_some] at hlists

/-- An empty line stands before the header. -/
private theorem print_summaryHeader (count : Nat) : print (summaryHeader count) =
    unlines [[], "Template warnings (".toList ++ Text.ofNat count ++ "):".toList] := by
  have hheader : SingleLine ("Template warnings (".toList ++ Text.ofNat count ++ "):".toList) :=
    .append (.append (by decide) (singleLine_ofNat count)) (by decide)
  have hstart : summaryHeader count =
      '\n' :: ("Template warnings (".toList ++ Text.ofNat count ++ "):".toList) := rfl
  rw [hstart, Console.print_newline_cons, hheader.print_eq]
  simp [unlines]

/-- Messages of one line are summed up. -/
theorem isSummary {messages : List Text} (h : ∀ message ∈ messages, SingleLine message) :
    IsSummary messages (summary messages) := by
  rw [summary]
  split
  · next hempty => exact .nothing (List.isEmpty_iff.mp hempty)
  · next hempty =>
    have hrows : ∀ row ∈ (Text.distinct messages).map (summaryLine messages), SingleLine row := by
      intro row hrow
      obtain ⟨message, hin, rfl⟩ := List.mem_map.mp hrow
      exact .append (.append (by decide) (h message (Text.mem_distinct.mp hin)))
        (singleLine_repetition _)
    rw [← List.flatMap_map, Console.flatMap_print hrows, print_summaryHeader, unlines, unlines,
      ← List.flatMap_append]
    exact .listing (by simpa using hempty) (listsOnce_distinct_messages messages)

/-- The numbers of times that the messages came up are the number of all messages together. -/
private theorem sum_count_of_listsOnce {messages once : List Text}
    (h : ListsOnce (· = ·) messages once) :
    (once.map fun message => messages.count message).sum = messages.length := by
  have htotal : (messages.dedup.map fun message => messages.count message).sum =
      messages.length := by
    -- The lemma decides whether texts are the same, and here they are compared by characters.
    have hsame : (instBEqOfDecidableEq : BEq Text) = List.instBEq := lawful_beq_subsingleton _ _
    have hdedup := List.sum_map_count_dedup_eq_length messages
    rwa [hsame] at hdedup
  have hperm : once.Perm messages.dedup := by
    refine (List.perm_ext_iff_of_nodup h.nodup messages.nodup_dedup).mpr fun message => ?_
    rw [h.mem_iff, List.mem_dedup, exists_eq_right]
  exact (hperm.map _).sum_eq.trans htotal

theorem summary_eq_nil_iff {messages : List Text} : summary messages = [] ↔ messages = [] := by
  rw [summary]
  split_ifs with hempty
  · exact iff_of_true rfl (List.isEmpty_iff.mp hempty)
  · refine iff_of_false ?_ (by simpa using hempty)
    rw [print_summaryHeader]
    exact List.cons_ne_nil _ _

/-- A text that counts messages: a line with the number of them and then each of them once, in the
order in which they first came up. Those that came up more than once have the number of times behind
them, and these numbers account for all messages. -/
structure Tallies (messages once : List Text) (out : Text) : Prop where
  listsOnce : ListsOnce (· = ·) messages once
  sum_count : (once.map fun message => messages.count message).sum = messages.length
  out_eq : out = unlines
    ([] :: ("Template warnings (".toList ++ Text.ofNat messages.length ++ "):".toList) ::
      once.map fun message => "  ⚠ ".toList ++ message ++
        if 1 < messages.count message then
          " (x".toList ++ Text.ofNat (messages.count message) ++ ")".toList
        else [])

theorem exists_tallies {messages : List Text} (hmessages : messages ≠ [])
    (h : ∀ message ∈ messages, SingleLine message) :
    ∃ once, Tallies messages once (summary messages) := by
  have hsummary := isSummary h
  generalize summary messages = out at hsummary ⊢
  cases hsummary with
  | nothing hempty => exact absurd hempty hmessages
  | @listing once _ hlists => exact ⟨once, hlists, sum_count_of_listsOnce hlists, rfl⟩

end FilingName.Display
