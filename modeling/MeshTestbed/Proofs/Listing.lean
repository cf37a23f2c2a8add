import MeshTestbed.Listing
import MeshTestbed.Proofs.Text.Occurrence
import MeshTestbed.Proofs.Text.Words

namespace MeshTestbed

namespace Container

variable {c : Container} {cs : List Container}

/-- The image is a word without a bar, and the id has no blanks; it may be empty or have bars. -/
structure IsPlain (c : Container) : Prop where
  image : Text.IsWord c.image.toList
  image_bar : '|' ∉ c.image.toList
  imageId : ∀ x ∈ c.imageId.toList, Text.isBlank x = false

theorem isPlain_iff : c.IsPlain ↔ Text.IsWord c.image.toList ∧ '|' ∉ c.image.toList ∧
    (c.imageId.toList.all fun x => !Text.isBlank x) = true := by
  constructor
  · intro h
    exact ⟨h.image, h.image_bar, by simpa using h.imageId⟩
  · rintro ⟨himage, hbar, hid⟩
    exact ⟨himage, hbar, by simpa using hid⟩

instance : Decidable c.IsPlain := decidable_of_iff _ isPlain_iff.symm

/-- What the template prints for the container. -/
def print (c : Container) : String := c.image ++ "|" ++ c.imageId ++ " "

def entry (c : Container) : List Char := c.image.toList ++ '|' :: c.imageId.toList

theorem toList_print : c.print.toList = c.entry ++ [' '] := by
  have hbar : "|".toList = ['|'] := rfl
  have hblank : " ".toList = [' '] := rfl
  simp [print, entry, hbar, hblank]

theorem isWord_entry (h : c.IsPlain) : Text.IsWord c.entry where
  ne_nil := by simp [entry]
  chars x hx := by
    rcases List.mem_append.1 hx with himage | hrest
    · exact h.image.chars x himage
    · rcases List.mem_cons.1 hrest with rfl | hid
      · decide
      · exact h.imageId x hid

theorem ofEntry_entry (h : c.IsPlain) : ofEntry? c.entry = some c := by
  have hparts : Text.splitFirst ['|'] c.entry = some (c.image.toList, c.imageId.toList) :=
    Text.splitFirst_append (by simp) fun hbar =>
      h.image_bar ((List.singleton_infix_iff _ _).1 hbar)
  have himage : c.image.toList.isEmpty = false := by simpa using h.image.ne_nil
  unfold ofEntry?
  simp only [hparts, Option.getD_some, himage, Bool.false_eq_true, if_false, String.ofList_toList]

theorem spaced_print (h : ∀ c ∈ cs, c.IsPlain) :
    Text.Spaced (cs.map entry) (cs.flatMap fun c => c.print.toList) := by
  induction cs with
  | nil => exact .blanks [] (by simp)
  | cons c cs ih =>
    obtain ⟨hc, hcs⟩ := List.forall_mem_cons.1 h
    rw [List.map_cons, List.flatMap_cons, toList_print, List.append_assoc, List.singleton_append]
    exact .cons_word (isWord_entry hc) (by decide) (ih hcs)

end Container

namespace PodListing

variable {p : PodListing} {pods : List PodListing} {name rest : List Char}

/-- The name of the pod is a word, and its containers can be told apart. -/
structure IsPlain (p : PodListing) : Prop where
  pod : Text.IsWord p.pod.toList
  containers : ∀ c ∈ p.containers, c.IsPlain

theorem isPlain_iff :
    p.IsPlain ↔ Text.IsWord p.pod.toList ∧ ∀ c ∈ p.containers, c.IsPlain :=
  ⟨fun h => ⟨h.pod, h.containers⟩, fun ⟨hpod, hcontainers⟩ => ⟨hpod, hcontainers⟩⟩

instance : Decidable p.IsPlain := decidable_of_iff _ isPlain_iff.symm

def print (p : PodListing) : String :=
  p.pod ++ "\t" ++ String.join (p.containers.map Container.print)

/-- What the template prints: a line for each pod. -/
def printed (pods : List PodListing) : String := Text.unlines (pods.map print)

theorem skipsReturn_ofLine (line : List Char) : ofLine? (line ++ ['\r']) = ofLine? line := by
  unfold ofLine?
  rw [Text.trimEnd_concat_blank (by decide)]

theorem trimEnd_tab (hname : Text.IsWord name) :
    Text.trimEnd (name ++ '\t' :: rest) =
      if (Text.trimEnd rest).isEmpty then name else name ++ '\t' :: Text.trimEnd rest := by
  have htab : Text.trimEnd ('\t' :: rest) =
      if (Text.trimEnd rest).isEmpty then [] else '\t' :: Text.trimEnd rest := by
    rw [← List.singleton_append, Text.trimEnd_append]
    rfl
  have hkept : Text.trimEnd name = name := by
    refine Text.cutEnd_eq_self_iff.2 fun c hc => hname.chars c (List.mem_of_mem_getLast? hc)
  rw [Text.trimEnd_append, htab, hkept]
  split <;> rfl

theorem ofLine_tab (hname : Text.IsWord name) : ofLine? (name ++ '\t' :: rest) =
    some ⟨String.ofList name, (Text.words rest).filterMap Container.ofEntry?⟩ := by
  have htab : '\t' ∉ name := hname.not_mem (by decide)
  have hkept : name.isEmpty = false := by simpa using hname.ne_nil
  have hparts : ((Text.splitFirst ['\t'] (Text.trimEnd (name ++ '\t' :: rest))).getD
      (Text.trimEnd (name ++ '\t' :: rest), [])) = (name, Text.trimEnd rest) := by
    rw [trimEnd_tab hname]
    split
    · next hempty =>
      -- Without containers the tab is cut off, and the whole line is the name.
      rcases Text.splitFirst_singleton name '\t' with ⟨hnone, -⟩ | ⟨xs, ys, -, hsplit, -⟩
      · rw [hnone, Option.getD_none, List.isEmpty_iff.1 hempty]
      · exact absurd (hsplit ▸ by simp) htab
    · have hparted : Text.splitFirst ['\t'] (name ++ '\t' :: Text.trimEnd rest) =
          some (name, Text.trimEnd rest) :=
        Text.splitFirst_append (by simp) fun hinside =>
          htab ((List.singleton_infix_iff _ _).1 hinside)
      rw [hparted, Option.getD_some]
  simp only [ofLine?, hparts, Text.trim_of_no_blank hname.chars, hkept, Bool.false_eq_true,
    if_false, Text.words_trimEnd]

theorem toList_print : p.print.toList =
    p.pod.toList ++ '\t' :: p.containers.flatMap fun c => c.print.toList := by
  have htab : "\t".toList = ['\t'] := rfl
  simp [print, htab, String.toList_join, List.flatMap_map]

theorem ofLine_print (h : p.IsPlain) : ofLine? p.print.toList = some p := by
  have hcontainers : (p.containers.map Container.entry).filterMap Container.ofEntry? =
      p.containers :=
    Text.filterMap_map_eq_self fun c hc => Container.ofEntry_entry (h.containers c hc)
  rw [toList_print, ofLine_tab h.pod, (Container.spaced_print h.containers).words_eq, hcontainers,
    String.ofList_toList]

theorem newline_not_mem_print (h : p.IsPlain) : '\n' ∉ p.print.toList := by
  have hnewline : Text.isBlank '\n' = true := by decide
  have hcontainers : ∀ c ∈ p.containers, '\n' ∉ c.print.toList := by
    intro c hc
    rw [Container.toList_print]
    simp [(Container.isWord_entry (h.containers c hc)).not_mem hnewline]
  rw [toList_print]
  simpa [h.pod.not_mem hnewline] using hcontainers

/-- A printed listing is read as the pods that it lists, each with its containers, whatever their
number and whether or not their ids are known. -/
theorem ofListing_printed (pods : List PodListing) (h : ∀ p ∈ pods, p.IsPlain) :
    ofListing (printed pods) = pods := by
  have hlines : ∀ l ∈ pods.map print, '\n' ∉ l.toList :=
    List.forall_mem_map.2 fun p hp => newline_not_mem_print (h p hp)
  rw [ofListing, Text.filterMap_lines rfl skipsReturn_ofLine, printed,
    Text.readLines_unlines rfl hlines]
  exact Text.filterMap_map_eq_self fun p hp => ofLine_print (h p hp)

/-- A pod whose ids have a bar or are empty, and one without containers. -/
def mixedPods : List PodListing :=
  [⟨"web", [⟨"proxy:2.0", "docker|proxy@sha256:0a"⟩, ⟨"web:1.0", ""⟩]⟩, ⟨"pending", []⟩]

theorem ofListing_printed_of_mixedPods :
    printed mixedPods = "web\tproxy:2.0|docker|proxy@sha256:0a web:1.0| \npending\t\n" ∧
      (∀ p ∈ mixedPods, p.IsPlain) ∧ ofListing (printed mixedPods) = mixedPods := by
  have hplain : ∀ p ∈ mixedPods, p.IsPlain := by decide +kernel
  exact ⟨by decide +kernel, hplain, ofListing_printed mixedPods hplain⟩

end PodListing

end MeshTestbed
