import Mathlib
import SqlFrontEnd.Proofs.CommandLine.Tokenizing

/-!
# Words for every request

Whatever the tokens of a source can be printed by can be asked for: any file, whatever its name
looks like, and any choice of options.  A command line is read from its front, so each option is
settled by a lemma that takes its words away; a name that could be taken for an option stands behind
the separator.

* `items_words`, `exists_items` — giving roles changes no word, and fails only at ambiguous ones.
* `read_switch`, `read_valued`, `read_attached`, `read_separated`, `read_group` — what the words at
  the front of a command line do.
* `tokenizeWords` — a command line with given options and a given file.
* **`ofWords_tokenizeWords`** — it is read as what it says.
-/

namespace SqlFrontEnd

namespace Arguments

variable {ι ρ : Type} {forms : List (OptionForm ι)} {words : List String}

/-! ## Roles -/

/-- Giving roles changes no word. -/
lemma items_words {found : List (Item ι)} (h : items forms words = .ok found) :
    found.map (·.word) = words := by
  induction words generalizing found with
  | nil => cases h; rfl
  | cons word words ih =>
      rw [items] at h
      split at h
      · cases h
        simp [Function.comp_def]
      · split at h
        · cases h
        · cases hitems : items forms words with
          | error fault => rw [hitems] at h; cases h
          | ok rest =>
              rw [hitems] at h
              cases h
              rw [List.map_cons, ih hitems]

/-- Words before the separator have roles where none of them is ambiguous. -/
lemma exists_items {before after : List String}
    (h : ∀ word ∈ before, ∃ role, roleOf forms word = .ok role) :
    ∃ found, items forms (before ++ "--" :: after) = .ok found := by
  induction before with
  | nil => exact ⟨_, by rw [List.nil_append, items, if_pos rfl]⟩
  | cons word before ih =>
      obtain ⟨role, hrole⟩ := h word List.mem_cons_self
      obtain ⟨found, hfound⟩ := ih fun word hword => h word (List.mem_cons_of_mem _ hword)
      rw [List.cons_append, items]
      split
      · exact ⟨_, rfl⟩
      · rw [hrole, hfound]
        exact ⟨_, rfl⟩

/-! ## Occurrences -/

/-- An option that needs no further word occurs with what stands in its own. -/
lemma occurrences_option {form : OptionForm ι} {attached : Attached}
    (h : (form.takesValue && attached == .nothing) = false) (room : Operands) (word : String)
    (rest : List (Item ι)) :
    occurrences forms room (⟨word, .option form attached⟩ :: rest) =
      attachedOccurrences forms form attached ++ occurrences forms room rest := by
  rw [occurrences.eq_def]
  dsimp only
  rw [h]
  rfl

/-- An option that needs a further word occurs with it. -/
lemma occurrences_valued {form : OptionForm ι} (h : form.takesValue = true) (room : Operands)
    (word value : String) (rest : List (Item ι)) :
    occurrences forms room (⟨word, .option form .nothing⟩ :: ⟨value, .operand⟩ :: rest) =
      .valued form.key value :: occurrences forms room rest := by
  rw [occurrences.eq_def]
  dsimp only
  rw [h]
  rfl

/-- The first operand and everything behind it occur as one group. -/
lemma occurrences_group (word : String) (rest : List (Item ι)) :
    occurrences forms .group (⟨word, .operand⟩ :: rest) =
      [.operands (word :: rest.map (·.word))] := by
  rw [occurrences.eq_def]

/-! ## Reading from the front -/

namespace Grammar

variable {g : Grammar ι ρ} {request request' : ρ} {word : String} {form : OptionForm ι}
  {result : ρ × List String}

/-- A command line is read where its words have roles and what they are can be done. -/
lemma read_eq_ok_iff : g.read request words = .ok result ↔
    ∃ found, items g.forms words = .ok found ∧
      g.apply request (occurrences g.forms g.operands found) = .ok result := by
  rw [read]
  cases items g.forms words <;> simp

/-- An option without a value. -/
lemma read_switch (hword : word ≠ "--") (hrole : roleOf g.forms word = .ok (.option form .nothing))
    (hform : form.takesValue = false) (hswitch : g.switch form.key request = .ok request')
    (h : g.read request' words = .ok result) : g.read request (word :: words) = .ok result := by
  obtain ⟨found, hfound, happly⟩ := read_eq_ok_iff.1 h
  refine read_eq_ok_iff.2 ⟨_, items_cons hword hrole hfound, ?_⟩
  rw [occurrences_option (by rw [hform]; rfl), attachedOccurrences, List.cons_append, apply,
    hswitch]
  exact happly

/-- An option with its value in the same word. -/
lemma read_attached {value : List Char} (hword : word ≠ "--")
    (hrole : roleOf g.forms word = .ok (.option form (.value value)))
    (hform : form.takesValue = true)
    (hvalued : g.valued form.key (String.ofList value) request = .ok request')
    (h : g.read request' words = .ok result) : g.read request (word :: words) = .ok result := by
  obtain ⟨found, hfound, happly⟩ := read_eq_ok_iff.1 h
  refine read_eq_ok_iff.2 ⟨_, items_cons hword hrole hfound, ?_⟩
  rw [occurrences_option (by rw [hform]; rfl), attachedOccurrences, if_pos hform,
    List.cons_append, apply, hvalued]
  exact happly

/-- An option with its value in the next word. -/
lemma read_valued {value : String} (hword : word ≠ "--")
    (hrole : roleOf g.forms word = .ok (.option form .nothing)) (hform : form.takesValue = true)
    (hvalue : value ≠ "--") (hoperand : roleOf g.forms value = .ok .operand)
    (hvalued : g.valued form.key value request = .ok request')
    (h : g.read request' words = .ok result) :
    g.read request (word :: value :: words) = .ok result := by
  obtain ⟨found, hfound, happly⟩ := read_eq_ok_iff.1 h
  refine read_eq_ok_iff.2 ⟨_, items_cons hword hrole (items_cons hvalue hoperand hfound), ?_⟩
  rw [occurrences_valued hform, apply, hvalued]
  exact happly

/-- One operand behind the separator, whatever it looks like. -/
lemma read_separated (hone : g.operands = .one)
    (hoperand : g.operand [word] request = .ok request') :
    g.read request ["--", word] = .ok (request', []) := by
  refine read_eq_ok_iff.2 ⟨[⟨"--", .separator⟩, ⟨word, .operand⟩], rfl, ?_⟩
  rw [hone]
  change g.operand [word] request >>= _ = _
  rw [hoperand]
  rfl

/-- The first operand and everything behind it, as one group. -/
lemma read_group (hgroup : g.operands = .group) (hword : word ≠ "--")
    (hrole : roleOf g.forms word = .ok .operand) {found : List (Item ι)}
    (hfound : items g.forms words = .ok found)
    (hoperand : g.operand (word :: words) request = .ok request') :
    g.read request (word :: words) = .ok (request', []) := by
  refine read_eq_ok_iff.2 ⟨_, items_cons hword hrole hfound, ?_⟩
  rw [hgroup, occurrences_group, items_words hfound, apply, hoperand]
  rfl

end Grammar

end Arguments

namespace CommandLine

open Arguments

/-- The word that names a configuration file. -/
def configWord (config : String) : String := "--config=" ++ config

/-- The options of the command that prints tokens. -/
def optionWords (json : Bool) (policy : Option KeywordCase) (config : Option String) :
    List String :=
  (if json then ["--json"] else []) ++
    (policy.elim [] fun policy => ["--keyword-case", policy.name]) ++
      (config.elim [] fun config => [configWord config])

/-- Words that ask for the tokens of a file.  The separator before its name makes it one. -/
def tokenizeWords (level : Option LogLevel) (json : Bool) (policy : Option KeywordCase)
    (config : Option String) (file : String) : List String :=
  (level.elim [] fun level => ["--log-level", level.name]) ++
    "tokenize" :: (optionWords json policy config ++ ["--", file])

/-! ## Roles of the words -/

lemma toList_configWord (config : String) :
    (configWord config).toList = '-' :: '-' :: ("config=".toList ++ config.toList) :=
  String.toList_append

/-- The first equals sign of the word stands before the file. -/
lemma atEquals_configWord (config : String) :
    atEquals (configWord config).toList = ("--config".toList, .value config.toList) := by
  rw [toList_configWord]
  rfl

/-- To the command, the word that names a configuration file is an option with its value. -/
lemma roleOf_configWord (config : String) :
    roleOf tokenizeGrammar.forms (configWord config) =
      .ok (.option ⟨.config, ["--config"], true⟩ (.value config.toList)) := by
  have hnone : optionOf? tokenizeGrammar.forms (configWord config).toList = none := by
    rw [toList_configWord]
    rfl
  rw [roleOf, toList_configWord, dashedRole, hnone, atEquals_configWord]
  rfl

/-- To the program, which has no such option, it is none or an operand. -/
lemma exists_roleOf_configWord (config : String) :
    ∃ role, roleOf programGrammar.forms (configWord config) = .ok role := by
  have hnone : optionOf? programGrammar.forms (configWord config).toList = none := by
    rw [toList_configWord]
    rfl
  have hnone' : optionOf? programGrammar.forms "--config".toList = none := rfl
  have hcandidates : candidates programGrammar.forms (configWord config).toList = [] := by
    rw [toList_configWord]
    rfl
  have hrole : dashedRole programGrammar.forms (configWord config) =
      if isNegativeNumber (configWord config).toList || (configWord config).toList.contains ' '
        then .ok .operand else .ok .unknown := by
    rw [dashedRole, hnone, atEquals_configWord, hnone', hcandidates]
  rw [roleOf, toList_configWord, hrole]
  exact (ite_eq_or_eq _ _ _).elim (fun h => ⟨_, h⟩) fun h => ⟨_, h⟩

lemma configWord_ne (config : String) : configWord config ≠ "--" := by
  intro h
  have hlist := congrArg String.toList h
  rw [toList_configWord] at hlist
  cases hlist

/-- The name of a policy is an operand to every command. -/
lemma roleOf_name {ι : Type} (forms : List (OptionForm ι)) (policy : KeywordCase) :
    policy.name ≠ "--" ∧ roleOf forms policy.name = .ok .operand := by
  cases policy with
  | sensitive => exact ⟨by decide, rfl⟩
  | insensitive => exact ⟨by decide, rfl⟩

/-- The words of the options are unambiguous to the program. -/
lemma exists_roleOf_of_mem {json : Bool} {policy : Option KeywordCase} {config : Option String}
    {word : String} (h : word ∈ optionWords json policy config) :
    ∃ role, roleOf programGrammar.forms word = .ok role := by
  simp only [optionWords, List.mem_append] at h
  obtain (h | h) | h := h
  · cases json with
    | false => simp at h
    | true =>
        obtain rfl : word = "--json" := by simpa using h
        exact ⟨.unknown, rfl⟩
  · cases policy with
    | none => simp at h
    | some policy =>
        obtain rfl | rfl : word = "--keyword-case" ∨ word = policy.name := by simpa using h
        · exact ⟨.unknown, rfl⟩
        · exact ⟨_, (roleOf_name _ policy).2⟩
  · cases config with
    | none => simp at h
    | some config =>
        obtain rfl : word = configWord config := by simpa using h
        exact exists_roleOf_configWord config

/-! ## The request -/

/-- The command reads its options, one after the other, and its file. -/
lemma read_optionWords (json : Bool) (policy : Option KeywordCase) (config : Option String)
    (file : String) :
    tokenizeGrammar.read {} (optionWords json policy config ++ ["--", file]) =
      .ok (⟨file, json, policy, config.map Path.ofString⟩, []) := by
  have hconfig : tokenizeGrammar.read ⟨standardInput, json, policy, none⟩
      ((config.elim [] fun config => [configWord config]) ++ ["--", file]) =
        .ok (⟨file, json, policy, config.map Path.ofString⟩, []) := by
    cases config with
    | none => exact Grammar.read_separated rfl rfl
    | some config =>
        refine Grammar.read_attached (configWord_ne config) (roleOf_configWord config) rfl rfl ?_
        rw [String.ofList_toList]
        exact Grammar.read_separated rfl rfl
  have hpolicy : tokenizeGrammar.read ⟨standardInput, json, none, none⟩
      ((policy.elim [] fun policy => ["--keyword-case", policy.name]) ++
        ((config.elim [] fun config => [configWord config]) ++ ["--", file])) =
          .ok (⟨file, json, policy, config.map Path.ofString⟩, []) := by
    cases policy with
    | none => exact hconfig
    | some policy =>
        obtain ⟨hne, hrole⟩ := roleOf_name tokenizeGrammar.forms policy
        refine Grammar.read_valued (by decide) rfl rfl hne hrole ?_ hconfig
        cases policy <;> rfl
  rw [optionWords, List.append_assoc, List.append_assoc]
  cases json with
  | false => exact hpolicy
  | true => exact Grammar.read_switch (by decide) rfl rfl rfl hpolicy

/-- **Every request can be made.** -/
lemma ofWords_tokenizeWords (level : Option LogLevel) (json : Bool) (policy : Option KeywordCase)
    (config : Option String) (file : String) :
    Invocation.ofWords (tokenizeWords level json policy config file) =
      .ok ⟨level, .tokenize ⟨file, json, policy, config.map Path.ofString⟩⟩ := by
  have hitems : ∃ found, items programGrammar.forms
      (optionWords json policy config ++ "--" :: [file]) = .ok found :=
    exists_items fun _ hword => exists_roleOf_of_mem hword
  obtain ⟨found, hfound⟩ := hitems
  let request : Request := .tokenize ⟨file, json, policy, config.map Path.ofString⟩
  have hcommand (level : Option LogLevel) : programGrammar.read { logLevel := level }
      ("tokenize" :: (optionWords json policy config ++ ["--", file])) =
        .ok ({ logLevel := level, request := some request }, []) := by
    refine Grammar.read_group rfl (by decide) rfl hfound ?_
    change (readCommand "tokenize" (optionWords json policy config ++ ["--", file])).map _ = _
    rw [readCommand, read_optionWords]
    rfl
  have hread : programGrammar.read {} (tokenizeWords level json policy config file) =
      .ok ({ logLevel := level, request := some request }, []) := by
    cases level with
    | none => exact hcommand none
    | some level =>
        refine Grammar.read_valued (by decide) rfl rfl ?_ ?_ ?_ (hcommand (some level))
        · cases level <;> decide
        · cases level <;> rfl
        · cases level <;> rfl
  rw [Invocation.ofWords, hread]
  rfl

end CommandLine

end SqlFrontEnd
