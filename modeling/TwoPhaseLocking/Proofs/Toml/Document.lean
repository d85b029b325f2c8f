import Mathlib.Data.List.Forall2
import TwoPhaseLocking.Proofs.Toml.Quote
import TwoPhaseLocking.Proofs.Toml.Scalars

/-!
Documents of sections, as the configuration writer lays them out, read line by line: a document
of sections with fresh names and keys becomes the tree of those sections, each holding its
scalars in the order written. Quoted strings, numbers that fit a 64-bit integer and booleans
read back as written (`valueText_quote`, `valueText_nat`, `valueText_bool`).
-/
namespace TwoPhaseLocking
namespace Toml
open Parse

/-- One line of a document, as the loop of `lines` reads it. -/
def lineStep (b : Builder) : Parse Builder := do
  match ← peek with
  | some '#' => commit (do comment; lineEnding); pure b
  | some '[' => commit (headerLine b)
  | some '\n' | some '\r' => newline; pure b
  | some _ => commit (keyvalLine b)
  | none => fail

theorem lines_go_succ (n : Nat) (b : Builder) (c : Cursor) : lines.go (n + 1) b c =
    match lineStep b c with
    | .ok (b', c') =>
      match ws c' with
      | .ok (_, c'') => if c''.pos > c.pos then lines.go n b' c'' else .ok (b', c'')
      | .error f => .error f
    | .error f => if f.committed then .error f else .ok (b, c) := rfl

variable {pos n : Nat} {b b' : Builder} {line rest : List Char}

theorem lines_go_line (hstep : Reads (lineStep b) pos line rest b') (hne : line ≠ [])
    (hrest : NoBlank rest) :
    lines.go (n + 1) b ⟨line ++ rest, pos⟩ = lines.go n b' ⟨rest, pos + byteLen line⟩ := by
  have hws : Reads ws (pos + byteLen line) [] rest () := reads_ws_nil hrest
  unfold Reads at hstep hws
  simp only [List.nil_append, byteLen_nil, Nat.add_zero] at hws
  have hmore : pos + byteLen line > pos := by have := byteLen_pos hne; omega
  rw [lines_go_succ, hstep]
  simp only [hws, hmore, if_true]

theorem lines_go_end : lines.go (n + 1) b ⟨[], pos⟩ = .ok (b, ⟨[], pos⟩) := by
  rw [lines_go_succ]
  rfl

theorem lineStep_bracket (t : List Char) :
    lineStep b ⟨'[' :: t, pos⟩ = commit (headerLine b) ⟨'[' :: t, pos⟩ := by
  rw [lineStep, bind_apply]
  rfl

theorem lineStep_newline (t : List Char) :
    lineStep b ⟨'\n' :: t, pos⟩ = (do newline; pure b : Parse Builder) ⟨'\n' :: t, pos⟩ := by
  rw [lineStep, bind_apply]
  rfl

theorem lineStep_key {x : Char} (hx : isKeyChar x = true) (t : List Char) :
    lineStep b ⟨x :: t, pos⟩ = commit (keyvalLine b) ⟨x :: t, pos⟩ := by
  rw [lineStep, bind_apply]
  simp only [Parse.peek, List.head?_cons]
  generalize hc : (some x : Option Char) = c
  split <;> simp_all [isKeyChar, isDigit]

theorem reads_lineStep_blank : Reads (lineStep b) pos ['\n'] rest b := by
  have h : Reads (do newline; pure b : Parse Builder) pos ['\n'] rest b :=
    Reads.bind_nil reads_newline (Reads.pure _)
  unfold Reads at h ⊢
  rw [List.singleton_append, lineStep_newline, ← List.singleton_append, h]

section Header

/-- The header of a table, `[k]`, or of an array of tables, `[[k]]`, as `headerLine` reads it:
its key, and where it ends. -/
def tableHeader (isArray : Bool) : Parse (List KeyPart × Nat) := do
  if isArray then
    chars ['[', '[']
    let k ← commit key
    expect "\x60]]\x60" (expect "\x60.\x60" (commit (chars [']', ']'])))
    let e ← here
    expect "\x60#\x60" (expect "newline" (commit lineTrailing))
    pure (k, e)
  else
    char '['
    let k ← commit key
    expect "\x60]\x60" (expect "\x60.\x60" (commit (char ']')))
    let e ← here
    expect "\x60#\x60" (expect "newline" (commit lineTrailing))
    pure (k, e)

theorem headerLine_eq (c : Cursor) : headerLine b c = label "table header" (fun c =>
    let isArray := c.rest.take 2 == ['[', '[']
    match tableHeader isArray c with
    | .error f => .error f
    | .ok ((path, e), c') =>
      let r := if isArray then b.startArrayTable path (c.pos, e) else b.startTable path (c.pos, e)
      match r with
      | .ok b' => .ok (b', c')
      | .error x => .error { pos := c.pos, cause := some x.message }) c := rfl

variable {k : List Char}

theorem reads_tableHeader (hk : ∀ ch ∈ k, isKeyChar ch = true) (hne : k ≠ []) :
    Reads (tableHeader false) pos ('[' :: (k ++ [']', '\n'])) rest
      ([(String.ofList k, (pos + 1, pos + 1 + byteLen k))], pos + 1 + byteLen k + 1) := by
  have hkey : Reads key (pos + 1) (k ++ []) (']' :: '\n' :: rest)
      [(String.ofList k, (pos + 1, pos + 1 + byteLen k))] :=
    reads_key hk hne (by simp [isKeyChar, isDigit]) (reads_ws_nil (noBlank_cons (by decide)))
      (fails_char_cons (by decide))
  rw [List.append_nil] at hkey
  refine Reads.bind (s := ['[']) (reads_char '[') (Reads.bind hkey.commit ?_)
  refine Reads.bind (s := [']']) ((reads_char ']').commit.expect _ |>.expect _) ?_
  refine Reads.bind (s := []) reads_here ?_
  exact Reads.bind_nil (reads_lineTrailing.commit.expect _ |>.expect _) (Reads.pure _)

theorem reads_lineStep_header (hk : ∀ ch ∈ k, isKeyChar ch = true) (hne : k ≠ [])
    (hst : b.startTable [(String.ofList k, (pos + 1, pos + 1 + byteLen k))]
      (pos, pos + 1 + byteLen k + 1) = .ok b') :
    Reads (lineStep b) pos ('[' :: (k ++ [']', '\n'])) rest b' := by
  have hhdr : Reads (tableHeader false) pos ('[' :: (k ++ [']', '\n'])) rest
      ([(String.ofList k, (pos + 1, pos + 1 + byteLen k))], pos + 1 + byteLen k + 1) :=
    reads_tableHeader hk hne
  obtain ⟨c0, k', rfl⟩ := List.exists_cons_of_ne_nil hne
  have hc0 : c0 ≠ '[' := fun h => by
    have := hk c0 List.mem_cons_self
    simp [h, isKeyChar, isDigit] at this
  unfold Reads at hhdr ⊢
  simp only [List.cons_append] at hhdr ⊢
  rw [lineStep_bracket, Parse.commit, headerLine_eq]
  have hbeq : (['[', c0] == ['[', '[']) = false := by simp [hc0]
  simp only [Parse.label, List.take_succ_cons, List.take_zero, hbeq, hhdr, Bool.false_eq_true,
    if_false, hst]

end Header

section Keyval

/-- The text `text` is read as the scalar `sc` wherever it stands before a line end, and does
not start with a blank. -/
def ValueText (text : List Char) (sc : Scalar) : Prop :=
  NoBlank (text ++ ['\n']) ∧
    ∀ p r, Reads (value nestingLimit) p text ('\n' :: r) (.scalar sc p (p + byteLen text))

/-- The body of a key/value line, as `keyvalLine` reads it: the key's path and the value. -/
def keyvalBody : Parse (List KeyPart × Node) := do
  let path ← key
  commit (do
    expect "\x60=\x60" (expect "\x60.\x60" (char '='))
    ws
    let v ← value nestingLimit
    expect "\x60#\x60" (expect "newline" lineTrailing)
    pure (path, v))

theorem keyvalLine_eq (c : Cursor) : keyvalLine b c =
    match keyvalBody c with
    | .error f => .error f
    | .ok ((path, v), c') =>
      match path.reverse with
      | (k, _) :: parentRev => match b.keyval parentRev.reverse k v with
        | .ok b' => .ok (b', c')
        | .error e => .error { pos := c.pos, cause := some e.message }
      | [] => .ok (b, c') := rfl

variable {k v : List Char} {sc : Scalar}

theorem reads_keyvalBody (hk : ∀ ch ∈ k, isKeyChar ch = true) (hne : k ≠ [])
    (hv : ValueText v sc) :
    ∃ p, Reads keyvalBody pos (k ++ [' ', '=', ' '] ++ v ++ ['\n']) rest
      ([(String.ofList k, (pos, pos + byteLen k))], .scalar sc p (p + byteLen v)) := by
  have hkey : Reads key pos (k ++ [' ']) ((['='] ++ ([' '] ++ (v ++ ['\n']))) ++ rest)
      [(String.ofList k, (pos, pos + byteLen k))] :=
    reads_key hk hne (by simp [isKeyChar, isDigit])
      (reads_ws_space (noBlank_cons (by decide))) (fails_char_cons (by decide))
  have hblank : NoBlank ((v ++ ['\n']) ++ rest) := by
    have h := hv.1
    cases v with
    | nil => exact noBlank_cons (by decide)
    | cons x v => exact fun ch hch => h ch (by simpa using hch)
  have hline : k ++ [' ', '=', ' '] ++ v ++ ['\n'] =
      (k ++ [' ']) ++ (['='] ++ ([' '] ++ (v ++ ['\n']))) := by simp
  rw [hline]
  refine ⟨pos + byteLen (k ++ [' ']) + byteLen ['='] + byteLen [' '], ?_⟩
  refine Reads.bind hkey (Reads.commit ?_)
  refine Reads.bind ((reads_char '=').expect _ |>.expect _) ?_
  refine Reads.bind (reads_ws_space hblank) ?_
  refine Reads.bind (hv.2 _ rest) ?_
  exact Reads.bind_nil (reads_lineTrailing.expect _ |>.expect _) (Reads.pure _)

theorem keyval_fresh {key : String} {node : Node} (h : Entries.lookup b.current key = none) :
    ∃ sp, b.keyval [] key node = .ok { b with current := b.current ++ [(key, node)], span := sp } :=
  ⟨_, by
    simp only [Builder.keyval, descend, List.isEmpty_nil, h, bind_pure_comp]
    rfl⟩

/-- A line `k = v` puts the value under a key the open table does not have yet. -/
theorem reads_lineStep_keyval (hk : ∀ ch ∈ k, isKeyChar ch = true) (hne : k ≠ [])
    (hv : ValueText v sc) (hfresh : Entries.lookup b.current (String.ofList k) = none) :
    ∃ a z sp, Reads (lineStep b) pos (k ++ [' ', '=', ' '] ++ v ++ ['\n']) rest
      { b with current := b.current ++ [(String.ofList k, .scalar sc a z)], span := sp } := by
  have hread : ∃ p, Reads keyvalBody pos (k ++ [' ', '=', ' '] ++ v ++ ['\n']) rest
      ([(String.ofList k, (pos, pos + byteLen k))], .scalar sc p (p + byteLen v)) :=
    reads_keyvalBody hk hne hv
  obtain ⟨p, hbody⟩ := hread
  have hkeyval : ∃ sp, b.keyval [] (String.ofList k) (.scalar sc p (p + byteLen v)) =
      .ok { b with
        current := b.current ++ [(String.ofList k, .scalar sc p (p + byteLen v))],
        span := sp } :=
    keyval_fresh hfresh
  obtain ⟨sp, hkv⟩ := hkeyval
  refine ⟨p, p + byteLen v, sp, ?_⟩
  obtain ⟨c0, k', rfl⟩ := List.exists_cons_of_ne_nil hne
  unfold Reads at hbody ⊢
  simp only [List.cons_append] at hbody ⊢
  rw [lineStep_key (hk c0 List.mem_cons_self), Parse.commit, keyvalLine_eq, hbody]
  simp only [List.reverse_cons, List.reverse_nil, List.nil_append, hkv]

end Keyval

/-! ### Documents of sections -/

/-- A `key = value` line: the key, the value's text, and the scalar the text stands for. -/
abbrev KeyvalText := String × List Char × Scalar

def keyvalsText : List KeyvalText → List Char
  | [] => []
  | (k, v, _) :: kvs => k.toList ++ [' ', '=', ' '] ++ v ++ ['\n'] ++ keyvalsText kvs

/-- Lines with bare keys and values that read as their scalars. -/
def KeyvalsOk (kvs : List KeyvalText) : Prop :=
  ∀ kv ∈ kvs, (∀ ch ∈ kv.1.toList, isKeyChar ch = true) ∧ kv.1 ≠ "" ∧ ValueText kv.2.1 kv.2.2

/-- The entries are the scalars `kvs`, key by key in order, whatever their spans. -/
def Scalars (es : Entries) (kvs : List (String × Scalar)) : Prop :=
  List.Forall₂ (fun e kv => e.1 = kv.1 ∧ ∃ a z, e.2 = .scalar kv.2 a z) es kvs

theorem Scalars.keys {es : Entries} {kvs : List (String × Scalar)} (h : Scalars es kvs) :
    es.map Prod.fst = kvs.map Prod.fst := by
  induction h with
  | nil => rfl
  | cons he _ ih => simp [he.1, ih]

theorem scalars_cons_iff {es : Entries} {k : String} {sc : Scalar} {kvs : List (String × Scalar)} :
    Scalars es ((k, sc) :: kvs) ↔ ∃ a z es', es = (k, .scalar sc a z) :: es' ∧ Scalars es' kvs := by
  unfold Scalars
  rw [List.forall₂_cons_right_iff]
  constructor
  · rintro ⟨⟨k', n⟩, es', ⟨hk, a, z, hn⟩, h, rfl⟩
    simp only at hk hn
    subst hk hn
    exact ⟨a, z, es', rfl, h⟩
  · rintro ⟨a, z, es', rfl, h⟩
    exact ⟨_, es', ⟨rfl, a, z, rfl⟩, h, rfl⟩

theorem scalars_nil_iff {es : Entries} : Scalars es [] ↔ es = [] :=
  List.forall₂_nil_right_iff

theorem lookup_eq_none {es : Entries} {k : String} (h : k ∉ es.map Prod.fst) :
    Entries.lookup es k = none := by
  simp only [Entries.lookup, Option.map_eq_none_iff, List.find?_eq_none, decide_eq_true_eq]
  intro e he hk
  exact h (List.mem_map.mpr ⟨e, he, hk⟩)

theorem noBlank_keyvalsText {kvs : List KeyvalText} (hok : KeyvalsOk kvs) (hrest : NoBlank rest) :
    NoBlank (keyvalsText kvs ++ rest) := by
  cases kvs with
  | nil => exact hrest
  | cons kv kvs =>
    obtain ⟨hk, hne, -⟩ := hok kv List.mem_cons_self
    obtain ⟨c0, k', hck⟩ := List.exists_cons_of_ne_nil (by simpa using hne : kv.1.toList ≠ [])
    intro x hx
    simp only [keyvalsText, hck, List.cons_append, List.append_assoc, List.head?_cons,
      Option.mem_def, Option.some.injEq] at hx
    subst hx
    exact isWs_of_isKeyChar (hk c0 (by simp [hck]))

theorem lines_go_keyvals (hrest : NoBlank rest) : ∀ (kvs : List KeyvalText) (b : Builder)
    (done : List (String × Scalar)) (n pos : Nat), KeyvalsOk kvs →
    (done.map Prod.fst ++ kvs.map Prod.fst).Nodup → Scalars b.current done →
    ∃ es sp, Scalars es (done ++ kvs.map fun kv => (kv.1, kv.2.2)) ∧
      lines.go (n + kvs.length) b ⟨keyvalsText kvs ++ rest, pos⟩ =
        lines.go n { b with current := es, span := sp } ⟨rest, pos + byteLen (keyvalsText kvs)⟩
  | [], b, done, n, pos, _, _, hcur => ⟨b.current, b.span, by simpa using hcur, by simp [keyvalsText]⟩
  | (k, v, sc) :: kvs, b, done, n, pos, hok, hnd, hcur => by
    obtain ⟨hk, hne, hv⟩ := hok (k, v, sc) List.mem_cons_self
    have hok' : KeyvalsOk kvs := fun kv hkv => hok kv (List.mem_cons_of_mem _ hkv)
    have hfresh : Entries.lookup b.current (String.ofList k.toList) = none := by
      refine lookup_eq_none ?_
      rw [String.ofList_toList, hcur.keys]
      intro hmem
      exact (List.nodup_append.mp hnd).2.2 _ hmem _ List.mem_cons_self rfl
    have hline : ∃ a z sp, Reads (lineStep b) pos (k.toList ++ [' ', '=', ' '] ++ v ++ ['\n'])
        (keyvalsText kvs ++ rest)
        { b with current := b.current ++ [(String.ofList k.toList, .scalar sc a z)], span := sp } :=
      reads_lineStep_keyval hk (by simpa using hne) hv hfresh
    obtain ⟨a, z, sp, hstep⟩ := hline
    rw [String.ofList_toList] at hstep
    have hcur' : Scalars (b.current ++ [(k, .scalar sc a z)]) (done ++ [(k, sc)]) :=
      List.rel_append hcur (List.Forall₂.cons ⟨rfl, a, z, rfl⟩ List.Forall₂.nil)
    have hnd' : ((done ++ [(k, sc)]).map Prod.fst ++ kvs.map Prod.fst).Nodup := by
      simpa using hnd
    obtain ⟨es, sp', hes, hgo⟩ := lines_go_keyvals hrest kvs
      { b with current := b.current ++ [(k, .scalar sc a z)], span := sp } _ n
      (pos + byteLen (k.toList ++ [' ', '=', ' '] ++ v ++ ['\n'])) hok' hnd' hcur'
    refine ⟨es, sp', by simpa using hes, ?_⟩
    have htext : keyvalsText ((k, v, sc) :: kvs) ++ rest =
        (k.toList ++ [' ', '=', ' '] ++ v ++ ['\n']) ++ (keyvalsText kvs ++ rest) := by
      simp [keyvalsText]
    rw [List.length_cons, ← Nat.add_assoc, htext,
      lines_go_line hstep (by simp) (noBlank_keyvalsText hok' hrest), hgo]
    simp [keyvalsText, Nat.add_assoc]

/-- The tables are the sections `secs`, each holding its scalars, whatever their spans. -/
def Sections (es : Entries) (secs : List (String × List (String × Scalar))) : Prop :=
  List.Forall₂ (fun e sec => e.1 = sec.1 ∧
    ∃ sub sp, e.2 = .table sub false false sp ∧ Scalars sub sec.2) es secs

theorem Sections.keys {es : Entries} {secs : List (String × List (String × Scalar))}
    (h : Sections es secs) : es.map Prod.fst = secs.map Prod.fst := by
  induction h with
  | nil => rfl
  | cons he _ ih => simp [he.1, ih]

theorem sections_cons_iff {es : Entries} {name : String} {kvs : List (String × Scalar)}
    {secs : List (String × List (String × Scalar))} :
    Sections es ((name, kvs) :: secs) ↔ ∃ sub sp es',
      es = (name, .table sub false false sp) :: es' ∧ Scalars sub kvs ∧ Sections es' secs := by
  unfold Sections
  rw [List.forall₂_cons_right_iff]
  constructor
  · rintro ⟨⟨k', n⟩, es', ⟨hk, sub, sp, hn, hsub⟩, h, rfl⟩
    simp only at hk hn
    subst hk hn
    exact ⟨sub, sp, es', rfl, hsub, h⟩
  · rintro ⟨sub, sp, es', rfl, hsub, h⟩
    exact ⟨_, es', ⟨rfl, sub, sp, rfl, hsub⟩, h, rfl⟩

/-- A builder with the sections `done` in its tree and the table `name` open, holding the
scalars `kvs`. -/
structure Builder.Open (b : Builder) (done : List (String × List (String × Scalar)))
    (name : String) (kvs : List (String × Scalar)) : Prop where
  root : Sections b.root done
  path : ∃ ks, b.path = [(name, ks)]
  isArray : b.isArray = false
  current : Scalars b.current kvs

theorem Builder.Open.finalize {done : List (String × List (String × Scalar))} {name : String}
    {kvs : List (String × Scalar)} (h : b.Open done name kvs) (hfresh : name ∉ done.map Prod.fst) :
    ∃ b₀, b.finalize = .ok b₀ ∧ Sections b₀.root (done ++ [(name, kvs)]) ∧ b₀.current = [] ∧
      b₀.path = [] := by
  obtain ⟨ks, hpath⟩ := h.path
  have hlookup : Entries.lookup b.root name = none := by
    refine lookup_eq_none ?_
    rwa [h.root.keys]
  have hfin : b.finalize = .ok { b with
      root := b.root ++ [(name, .table b.current false false b.span)], current := [], path := [],
      isArray := false, span := none } := by
    simp only [Builder.finalize, hpath, List.reverse_cons, List.reverse_nil, List.nil_append,
      descend, h.isArray, Bool.false_eq_true, if_false, hlookup]
    rfl
  exact ⟨_, hfin, List.rel_append h.root
    (List.Forall₂.cons ⟨rfl, b.current, b.span, rfl, h.current⟩ List.Forall₂.nil), rfl, rfl⟩

theorem startTable_fresh {b₀ : Builder} {done : List (String × List (String × Scalar))}
    {name : String} {ks span : Nat × Nat} (hfin : b.finalize = .ok b₀)
    (hroot : Sections b₀.root done) (hfresh : name ∉ done.map Prod.fst) :
    ∃ b', b.startTable [(name, ks)] span = .ok b' ∧ b'.Open done name [] := by
  have hlookup : Entries.lookup b₀.root name = none := by
    refine lookup_eq_none ?_
    rwa [hroot.keys]
  have hst : b.startTable [(name, ks)] span = .ok { b₀ with
      current := [], path := [(name, ks)], isArray := false, span := some span } := by
    rw [Builder.startTable, hfin]
    simp only [List.reverse_cons, List.reverse_nil, List.nil_append, descend, bind, Except.bind,
      hlookup]
    rfl
  exact ⟨_, hst, hroot, ⟨ks, rfl⟩, rfl, List.Forall₂.nil⟩

/-- A section: the name in its header and its `key = value` lines. -/
abbrev SectionText := String × List KeyvalText

def sectionText (sec : SectionText) : List Char :=
  '[' :: (sec.1.toList ++ [']', '\n']) ++ keyvalsText sec.2

def sectionEntries (sec : SectionText) : String × List (String × Scalar) :=
  (sec.1, sec.2.map fun kv => (kv.1, kv.2.2))

@[simp] theorem sectionEntries_fst (sec : SectionText) : (sectionEntries sec).1 = sec.1 := rfl

@[simp] theorem fst_comp_sectionEntries : Prod.fst ∘ sectionEntries = Prod.fst := rfl

/-- A section with a bare name, well-formed lines and keys written once. -/
def SectionOk (sec : SectionText) : Prop :=
  (∀ ch ∈ sec.1.toList, isKeyChar ch = true) ∧ sec.1 ≠ "" ∧ KeyvalsOk sec.2 ∧
    (sec.2.map Prod.fst).Nodup

/-- A section is well formed when its name and keys are bare keys, its keys are written once,
and its values read as their scalars. -/
theorem sectionOk_of_keys {name : String} {kvs : List KeyvalText}
    (hnames : ∀ k ∈ name :: kvs.map Prod.fst, (∀ ch ∈ k.toList, isKeyChar ch = true) ∧ k ≠ "")
    (hnd : (kvs.map Prod.fst).Nodup) (hvals : ∀ kv ∈ kvs, ValueText kv.2.1 kv.2.2) :
    SectionOk (name, kvs) := by
  have hname := hnames name List.mem_cons_self
  refine ⟨hname.1, hname.2, fun kv hkv => ?_, hnd⟩
  have hk := hnames kv.1 (List.mem_cons_of_mem _ (List.mem_map_of_mem hkv))
  exact ⟨hk.1, hk.2, hvals kv hkv⟩

/-- A section read after the sections `done` opens its table and fills it. -/
theorem lines_go_section (hrest : NoBlank rest) {b₀ : Builder}
    {done : List (String × List (String × Scalar))} (hfin : b.finalize = .ok b₀)
    (hroot : Sections b₀.root done) {sec : SectionText} (hsec : SectionOk sec)
    (hfresh : sec.1 ∉ done.map Prod.fst) (n pos : Nat) :
    ∃ b', b'.Open done sec.1 (sectionEntries sec).2 ∧
      lines.go (n + (sec.2.length + 1)) b ⟨sectionText sec ++ rest, pos⟩ =
        lines.go n b' ⟨rest, pos + byteLen (sectionText sec)⟩ := by
  obtain ⟨hk, hne, hok, hnd⟩ := hsec
  have hstart : ∃ b₁, b.startTable [(sec.1, (pos + 1, pos + 1 + byteLen sec.1.toList))]
      (pos, pos + 1 + byteLen sec.1.toList + 1) = .ok b₁ ∧ b₁.Open done sec.1 [] :=
    startTable_fresh hfin hroot hfresh
  obtain ⟨b₁, hst, hopen⟩ := hstart
  have hst' : b.startTable [(String.ofList sec.1.toList, (pos + 1, pos + 1 + byteLen sec.1.toList))]
      (pos, pos + 1 + byteLen sec.1.toList + 1) = .ok b₁ := by
    rwa [String.ofList_toList]
  have hheader : Reads (lineStep b) pos ('[' :: (sec.1.toList ++ [']', '\n']))
      (keyvalsText sec.2 ++ rest) b₁ :=
    reads_lineStep_header hk (by simpa using hne) hst'
  obtain ⟨es, sp, hes, hgo⟩ := lines_go_keyvals hrest sec.2 b₁ [] n
    (pos + byteLen ('[' :: (sec.1.toList ++ [']', '\n']))) hok (by simpa using hnd) hopen.current
  refine ⟨{ b₁ with current := es, span := sp }, ⟨hopen.root, hopen.path, hopen.isArray,
    by simpa [sectionEntries] using hes⟩, ?_⟩
  rw [sectionText, List.append_assoc, ← Nat.add_assoc,
    lines_go_line hheader (List.cons_ne_nil _ _) (noBlank_keyvalsText hok hrest), hgo]
  simp [Nat.add_assoc]

/-- The builder has read the sections `secs`: all but the last are in its tree, and the last is
its open table. -/
def Builder.HasRead (b : Builder) (secs : List (String × List (String × Scalar))) : Prop :=
  ∃ done name kvs, secs = done ++ [(name, kvs)] ∧ b.Open done name kvs

theorem Builder.HasRead.finalize {secs : List (String × List (String × Scalar))}
    (h : b.HasRead secs) (hnd : (secs.map Prod.fst).Nodup) :
    ∃ b₀, b.finalize = .ok b₀ ∧ Sections b₀.root secs := by
  obtain ⟨done, name, kvs, rfl, hopen⟩ := h
  have hfresh : name ∉ done.map Prod.fst := by
    intro hmem
    simp only [List.map_append, List.map_cons, List.map_nil] at hnd
    exact (List.nodup_append.mp hnd).2.2 _ hmem _ List.mem_cons_self rfl
  obtain ⟨b₀, hfin, hroot, -, -⟩ := hopen.finalize hfresh
  exact ⟨b₀, hfin, hroot⟩

def moreText (secs : List SectionText) : List Char :=
  secs.flatMap fun sec => '\n' :: sectionText sec

def moreLines : List SectionText → Nat
  | [] => 0
  | sec :: secs => sec.2.length + 2 + moreLines secs

theorem noBlank_moreText (secs : List SectionText) (hrest : NoBlank rest) :
    NoBlank (moreText secs ++ rest) := by
  cases secs with
  | nil => exact hrest
  | cons sec secs => exact noBlank_cons (by decide)

/-- Sections after a blank line each, read after the sections `done`, go into the tree in
turn, the last one left open. -/
theorem lines_go_more (hrest : NoBlank rest) : ∀ (secs : List SectionText) (b : Builder)
    (done : List (String × List (String × Scalar))) (n pos : Nat), b.HasRead done →
    (∀ sec ∈ secs, SectionOk sec) → (done.map Prod.fst ++ secs.map Prod.fst).Nodup →
    ∃ b', b'.HasRead (done ++ secs.map sectionEntries) ∧
      lines.go (n + moreLines secs) b ⟨moreText secs ++ rest, pos⟩ =
        lines.go n b' ⟨rest, pos + byteLen (moreText secs)⟩
  | [], b, done, n, pos, h, _, _ => ⟨b, by simpa using h, by simp [moreLines, moreText]⟩
  | sec :: secs, b, done, n, pos, h, hok, hnd => by
    have hok' : ∀ s ∈ secs, SectionOk s := fun s hs => hok s (List.mem_cons_of_mem _ hs)
    obtain ⟨b₀, hfin, hroot⟩ := h.finalize (List.nodup_append.mp hnd).1
    have hfresh : sec.1 ∉ done.map Prod.fst := fun hmem =>
      (List.nodup_append.mp hnd).2.2 _ hmem _ List.mem_cons_self rfl
    obtain ⟨b₁, hopen₁, hgo₁⟩ := lines_go_section (noBlank_moreText secs hrest) hfin hroot
      (hok sec List.mem_cons_self) hfresh (n + moreLines secs) (pos + byteLen ['\n'])
    have hnd' : ((done ++ [sectionEntries sec]).map Prod.fst ++ secs.map Prod.fst).Nodup := by
      simpa [sectionEntries] using hnd
    obtain ⟨b', hread', hgo'⟩ := lines_go_more hrest secs b₁ (done ++ [sectionEntries sec]) n
      (pos + byteLen ['\n'] + byteLen (sectionText sec)) ⟨done, sec.1, _, rfl, hopen₁⟩ hok' hnd'
    refine ⟨b', by simpa using hread', ?_⟩
    have hblank : Reads (lineStep b) pos ['\n'] (sectionText sec ++ moreText secs ++ rest) b :=
      reads_lineStep_blank
    have htext : moreText (sec :: secs) ++ rest =
        ['\n'] ++ (sectionText sec ++ moreText secs ++ rest) := by
      simp [moreText]
    have hfuel : n + moreLines (sec :: secs) = n + moreLines secs + (sec.2.length + 1) + 1 := by
      simp only [moreLines]
      omega
    rw [hfuel, htext, lines_go_line hblank (List.cons_ne_nil _ _) (noBlank_cons (by decide)),
      List.append_assoc, hgo₁, hgo']
    simp [moreText, Nat.add_assoc]

theorem length_keyvalsText (kvs : List KeyvalText) : kvs.length ≤ (keyvalsText kvs).length := by
  induction kvs with
  | nil => simp [keyvalsText]
  | cons kv kvs ih =>
    simp only [keyvalsText, List.length_append, List.length_cons]
    omega

theorem length_sectionText (sec : SectionText) : sec.2.length + 1 ≤ (sectionText sec).length := by
  have := length_keyvalsText sec.2
  simp only [sectionText, List.length_append, List.length_cons]
  omega

theorem length_moreText (secs : List SectionText) : moreLines secs ≤ (moreText secs).length := by
  induction secs with
  | nil => simp [moreLines, moreText]
  | cons sec secs ih =>
    have := length_sectionText sec
    simp only [moreLines, moreText, List.flatMap_cons, List.length_append, List.length_cons] at ih ⊢
    omega

/-- A document of sections, a blank line between two, reads as its sections' tables, each
holding its scalars under their keys in the order written, when the names are bare keys
written once and each section's keys are written once. -/
theorem read_sections {s : String} {sec : SectionText} {secs : List SectionText}
    (hs : s.toList = sectionText sec ++ moreText secs) (hok : ∀ x ∈ sec :: secs, SectionOk x)
    (hnames : ((sec :: secs).map Prod.fst).Nodup) :
    ∃ root, read s = .ok root ∧ Sections root ((sec :: secs).map sectionEntries) := by
  -- the loop runs a step per line, and there are fewer lines than characters
  have hlen : sec.2.length + 1 + moreLines secs ≤ s.toList.length := by
    have := length_sectionText sec
    have := length_moreText secs
    rw [hs, List.length_append]
    omega
  obtain ⟨m, hm⟩ : ∃ m, s.toList.length + 1 = m + 1 + moreLines secs + (sec.2.length + 1) :=
    ⟨s.toList.length - (sec.2.length + 1 + moreLines secs), by omega⟩
  have hfin₀ : ({} : Builder).finalize = .ok {} := rfl
  have hnil : NoBlank [] := fun _ h => by simp at h
  obtain ⟨b₁, hopen₁, hgo₁⟩ := lines_go_section (noBlank_moreText secs hnil) hfin₀
    List.Forall₂.nil (hok sec List.mem_cons_self) List.not_mem_nil (m + 1 + moreLines secs) 0
  obtain ⟨b', hread', hgo'⟩ := lines_go_more hnil secs b₁ [sectionEntries sec] (m + 1)
    (0 + byteLen (sectionText sec)) ⟨[], sec.1, _, rfl, hopen₁⟩
    (fun x hx => hok x (List.mem_cons_of_mem _ hx)) (by simpa using hnames)
  obtain ⟨b₀, hfin, hroot⟩ := hread'.finalize (by simpa using hnames)
  refine ⟨b₀.root, ?_, by simpa using hroot⟩
  have hlines : Reads (lines {}) 0 s.toList [] b' := by
    unfold Reads
    rw [List.append_nil, lines, hm]
    rw [hs, List.append_nil] at *
    rw [hgo₁, hgo', lines_go_end]
    simp
  obtain ⟨x, u, hxu⟩ : ∃ x u, s.toList = x :: u ∧ x = '[' := ⟨_, _, by rw [hs]; rfl, rfl⟩
  have hbody : Reads (do ws; let b ← lines {}; eof; pure b : Parse Builder) 0 s.toList [] b' := by
    have hnb : NoBlank (s.toList ++ []) := by
      rw [List.append_nil, hxu.1, hxu.2]
      exact noBlank_cons (by decide)
    exact Reads.bind (s := []) (reads_ws_nil hnb)
      (Reads.bind_nil hlines (Reads.bind (s := []) reads_eof (Reads.pure _)))
  unfold Reads at hbody
  rw [List.append_nil] at hbody
  obtain ⟨hx, rfl⟩ := hxu
  unfold read
  rw [hx] at hbody ⊢
  dsimp only
  -- the text does not start with a byte order mark, so it is read from its start
  split
  · rename_i heq
    cases hbody.symm.trans heq
  · rename_i b _ heq
    cases hbody.symm.trans heq
    rw [hfin]

/-! ### The values the configuration writer produces -/

/-- A string as the writer quotes it reads back as that string. -/
theorem valueText_quote (s : String) : ValueText (quote s).toList (.string s) := by
  obtain ⟨q, u, hq, hq'⟩ := quote_head s
  refine ⟨?_, fun p r => reads_value_quote 79 s r⟩
  rw [hq, List.cons_append]
  exact noBlank_cons (by rcases hq' with rfl | rfl <;> decide)

/-- A number's decimal digits read back as that number, when it fits a 64-bit integer. -/
theorem valueText_nat {n : Nat} (hn : (n : Int) ≤ int64Max) :
    ValueText (Nat.toDigits 10 n) (.integer n) := by
  refine ⟨fun ch hch => ?_, fun p r => ?_⟩
  · have hd : isDigit ch = true := head_toDigits_isDigit n ch hch
    exact isWs_of_isKeyChar (by simp [isKeyChar, hd])
  · rw [byteLen_of_digits (toDigits_all_digits n)]
    exact reads_value_nat 79 n hn

theorem valueText_bool (b : Bool) :
    ValueText (if b then "true" else "false").toList (.boolean b) := by
  cases b with
  | true =>
    rw [show (if true = true then "true" else "false").toList = ['t', 'r', 'u', 'e'] by simp]
    exact ⟨noBlank_cons (by decide), fun p r => reads_value_true 79 _⟩
  | false =>
    rw [show (if false = true then "true" else "false").toList = ['f', 'a', 'l', 's', 'e'] by simp]
    exact ⟨noBlank_cons (by decide), fun p r => reads_value_false 79 _⟩

end Toml
end TwoPhaseLocking
