import Mathlib.Data.List.GetD
import ShardScript.Libraries.Resolution
import ShardScript.Libraries.VersionIntervals

/-! Which of the libraries of one name a dependency gets, whatever their order. -/
namespace ShardScript.Libraries

/-- The version of a library, or its text where that cannot be read. -/
def statedVersion (library : ResolvedLibrary) : Except String SemanticVersion :=
  match versionOf library with
  | some version => .ok version
  | none => .error library.version

def Candidate (libraries : List ResolvedLibrary) (dependency : String × String) (version : Except String SemanticVersion) : Prop :=
  ∃ library ∈ libraries,(library.name ≠ "" ∧ library.name = dependency.1) ∧ statedVersion library = version ∧
    ∃ expression,expressionOf dependency.2 = some expression ∧ accepts expression library = true

def Greatest (libraries : List ResolvedLibrary) (dependency : String × String) (version : SemanticVersion) : Prop :=
  Candidate libraries dependency (.ok version) ∧
    ∀ other,Candidate libraries dependency (.ok other) → version.less other = false

/-- All candidates have one text that cannot be read; or all versions can be, and the greatest ones are the same. -/
def Unambiguous (libraries : List ResolvedLibrary) (dependency : String × String) : Prop :=
  (∃ text,∀ version,Candidate libraries dependency version → version = .error text) ∨
    (∀ text,¬Candidate libraries dependency (.error text)) ∧
      ∀ version other,Greatest libraries dependency version → Greatest libraries dependency other → version = other

def nameAndVersion (libraries : List ResolvedLibrary) (target : Nat) : String × Except String SemanticVersion :=
  ((libraryAt libraries target).name,statedVersion (libraryAt libraries target))

structure SelectsGreatest (libraries : List ResolvedLibrary) (dependency : String × String) : Prop where
  maximal : ∀ (librariesByName : LibrariesByName libraries) source resolved,
    resolveDependency libraries librariesByName source dependency = .ok resolved →
      (libraryAt libraries resolved.target).name = dependency.1 ∧ Satisfying libraries dependency resolved.target ∧
        ∀ other,Satisfying libraries dependency other →
          isBetter (libraryAt libraries resolved.target) (libraryAt libraries other) = false
  independent : ∀ (libraries' : List ResolvedLibrary),libraries.Perm libraries' →
    ∀ (librariesByName : LibrariesByName libraries) (librariesByName' : LibrariesByName libraries') source source' resolved,
      resolveDependency libraries librariesByName source dependency = .ok resolved →
        ∃ resolved',resolveDependency libraries' librariesByName' source' dependency = .ok resolved' ∧
          nameAndVersion libraries' resolved'.target = nameAndVersion libraries resolved.target

section Scan

variable {libraries : List ResolvedLibrary} {expression : Option VersionExpression} {best candidate : ResolvedLibrary}

theorem isBetter_of_versions {version other : SemanticVersion} (known : versionOf best = some version)
    (known' : versionOf candidate = some other) : isBetter best candidate = version.less other := by
  rw [isBetter,known,known']

theorem statedVersion_ok {library : ResolvedLibrary} {version : SemanticVersion} :
    statedVersion library = .ok version ↔ versionOf library = some version := by
  rw [statedVersion]
  cases versionOf library with
  | none => simp
  | some read => simp

theorem statedVersion_error {library : ResolvedLibrary} {text : String} (stated : statedVersion library = .error text) :
    versionOf library = none := by
  rw [statedVersion] at stated
  cases known : versionOf library with
  | none => rfl
  | some version =>
      rw [known] at stated
      cases stated

theorem less_eq_false_iff {version other : SemanticVersion} : version.less other = false ↔ other.key ≤ version.key := by
  rw [← Bool.not_eq_true,less_iff,not_lt]

theorem not_isBetter_self (library : ResolvedLibrary) : isBetter library library = false := by
  cases known : versionOf library with
  | none => rw [isBetter,known]
  | some version => rw [isBetter_of_versions known known,less_eq_false_iff]

theorem isSome_of_isBetter (better : isBetter best candidate = true) :
    (versionOf candidate).isSome = true := by
  rw [isBetter] at better
  split at better
  · rename_i known
    rw [known]
    rfl
  · cases better

theorem isBetter_trans {best middle candidate : ResolvedLibrary} (versioned : versionOf middle ≠ none)
    (first : isBetter best middle = false) (second : isBetter middle candidate = false) : isBetter best candidate = false := by
  obtain ⟨version,known⟩ := Option.ne_none_iff_exists'.mp versioned
  cases known₁ : versionOf best with
  | none => rw [isBetter,known₁]
  | some version₁ =>
      cases known₂ : versionOf candidate with
      | none => rw [isBetter,known₁,known₂]
      | some version₂ =>
          rw [isBetter_of_versions known₁ known,less_eq_false_iff] at first
          rw [isBetter_of_versions known known₂,less_eq_false_iff] at second
          rw [isBetter_of_versions known₁ known₂,less_eq_false_iff]
          exact second.trans first

theorem isBetter_asymm (better : isBetter best candidate = true) :
    isBetter candidate best = false := by
  cases known₁ : versionOf candidate with
  | none => rw [isBetter,known₁]
  | some version₁ =>
      cases known₂ : versionOf best with
      | none => rw [isBetter,known₁,known₂]
      | some version₂ =>
          rw [isBetter_of_versions known₂ known₁,less_iff] at better
          rw [isBetter_of_versions known₁ known₂,less_eq_false_iff]
          exact better.le

variable {candidates : List Nat}

theorem bestMatch_kept {best : Nat} (greatest : ∀ candidate ∈ candidates,
      accepts expression (libraryAt libraries candidate) = true →
        isBetter (libraryAt libraries best) (libraryAt libraries candidate) = false) :
    bestMatch libraries expression candidates (some best) = some best := by
  induction candidates with
  | nil => rfl
  | cons candidate candidates ih =>
      obtain ⟨first,rest⟩ := List.forall_mem_cons.mp greatest
      rw [bestMatch]
      cases accepted : accepts expression (libraryAt libraries candidate) with
      | false => exact ih rest
      | true =>
          rw [if_pos rfl,first accepted,if_neg Bool.false_ne_true]
          exact ih rest

theorem bestMatch_versioned {best target : Nat} (versioned : (versionOf (libraryAt libraries best)).isSome = true)
    (found : bestMatch libraries expression candidates (some best) = some target) :
    (versionOf (libraryAt libraries target)).isSome = true := by
  induction candidates generalizing best with
  | nil =>
      cases found
      exact versioned
  | cons candidate candidates ih =>
      rw [bestMatch] at found
      split_ifs at found with accepted better
      · exact ih (isSome_of_isBetter better) found
      · exact ih versioned found
      · exact ih versioned found

theorem bestMatch_maximal {best : Option Nat} {target : Nat}
    (versioned : ∀ index,best = some index ∨ index ∈ candidates ∧ accepts expression (libraryAt libraries index) = true →
      versionOf (libraryAt libraries index) ≠ none)
    (found : bestMatch libraries expression candidates best = some target) (index : Nat)
    (among : best = some index ∨ index ∈ candidates ∧ accepts expression (libraryAt libraries index) = true) :
    isBetter (libraryAt libraries target) (libraryAt libraries index) = false := by
  induction candidates generalizing best index with
  | nil =>
      obtain same | ⟨member,-⟩ := among
      · cases same.symm.trans found
        exact not_isBetter_self _
      · cases member
  | cons candidate candidates ih =>
      have later {index : Nat} (member : index ∈ candidates ∧ accepts expression (libraryAt libraries index) = true) :
          index ∈ candidate :: candidates ∧ accepts expression (libraryAt libraries index) = true :=
        ⟨List.mem_cons_of_mem _ member.1,member.2⟩
      rw [bestMatch.eq_def] at found
      dsimp only at found
      split_ifs at found with accepted
      · have here : versionOf (libraryAt libraries candidate) ≠ none := versioned _ (.inr ⟨List.mem_cons_self,accepted⟩)
        cases best with
        | none =>
            have greatest := ih (fun other among => among.elim (fun same => by cases same; exact here)
              fun member => versioned other (.inr (later member))) found
            obtain ⟨⟨⟩⟩ | ⟨member,accepted'⟩ := among
            obtain rfl | member := List.mem_cons.mp member
            · exact greatest _ (.inl rfl)
            · exact greatest index (.inr ⟨member,accepted'⟩)
        | some best =>
            dsimp only at found
            split_ifs at found with better
            · have greatest := ih (fun other among => among.elim (fun same => by cases same; exact here)
                fun member => versioned other (.inr (later member))) found
              obtain ⟨⟨⟩⟩ | ⟨member,accepted'⟩ := among
              · exact isBetter_trans here (greatest _ (.inl rfl)) (isBetter_asymm better)
              · obtain rfl | member := List.mem_cons.mp member
                · exact greatest _ (.inl rfl)
                · exact greatest index (.inr ⟨member,accepted'⟩)
            · have greatest := ih (fun other among => among.elim (fun same => versioned other (.inl same))
                fun member => versioned other (.inr (later member))) found
              obtain same | ⟨member,accepted'⟩ := among
              · exact greatest index (.inl same)
              · obtain rfl | member := List.mem_cons.mp member
                · exact isBetter_trans (versioned best (.inl rfl)) (greatest best (.inl rfl)) (Bool.eq_false_iff.mpr better)
                · exact greatest index (.inr ⟨member,accepted'⟩)
      · have greatest := ih (fun other among => among.elim (fun same => versioned other (.inl same))
          fun member => versioned other (.inr (later member))) found
        obtain same | ⟨member,accepted'⟩ := among
        · exact greatest index (.inl same)
        · obtain rfl | member := List.mem_cons.mp member
          · exact absurd accepted' accepted
          · exact greatest index (.inr ⟨member,accepted'⟩)

end Scan

section Candidates

variable {libraries : List ResolvedLibrary} {dependency : String × String} {index : Nat}

theorem libraryAt_mem (member : index ∈ named libraries dependency.1) :
    libraryAt libraries index ∈ libraries ∧
      (libraryAt libraries index).name ≠ "" ∧ (libraryAt libraries index).name = dependency.1 := by
  obtain ⟨inside,same⟩ := List.mem_filter.mp member
  rw [Bool.and_eq_true,bne_iff_ne,beq_iff_eq] at same
  refine ⟨?_,same⟩
  rw [libraryAt,List.getD_eq_getElem _ _ (List.mem_range.mp inside)]
  exact List.getElem_mem _

theorem candidate_of_satisfying (satisfying : Satisfying libraries dependency index) :
    Candidate libraries dependency (statedVersion (libraryAt libraries index)) := by
  obtain ⟨member,accepted⟩ := satisfying
  obtain ⟨inside,same⟩ := libraryAt_mem member
  exact ⟨_,inside,same,rfl,accepted⟩

theorem exists_satisfying {version : Except String SemanticVersion} (candidate : Candidate libraries dependency version) :
    ∃ index,Satisfying libraries dependency index ∧ statedVersion (libraryAt libraries index) = version := by
  obtain ⟨library,member,⟨named,same⟩,known,accepted⟩ := candidate
  obtain ⟨index,inside,rfl⟩ := List.mem_iff_getElem.mp member
  have found : libraryAt libraries index = libraries[index] := List.getD_eq_getElem _ _ inside
  refine ⟨index,⟨List.mem_filter.mpr ⟨List.mem_range.mpr inside,?_⟩,?_⟩,?_⟩
  · rw [found,Bool.and_eq_true,bne_iff_ne,beq_iff_eq]
    exact ⟨named,same⟩
  · rw [found]
    exact accepted
  · rw [found]
    exact known

variable {libraries' : List ResolvedLibrary}

theorem Candidate.of_perm (perm : libraries.Perm libraries')
    {version : Except String SemanticVersion}
    (candidate : Candidate libraries dependency version) : Candidate libraries' dependency version := by
  obtain ⟨library,member,rest⟩ := candidate
  exact ⟨library,perm.mem_iff.mp member,rest⟩

variable {librariesByName : LibrariesByName libraries} {resolved : LibraryDependency} {source : Nat}

theorem resolveDependency_iff :
    resolveDependency libraries librariesByName source dependency = .ok resolved ↔
      ∃ expression target,expressionOf dependency.2 = some expression ∧
        bestMatch libraries expression (librariesByName.equalRange dependency.1) none = some target ∧
        resolved = ⟨source,dependency.1,versionExpressionOf dependency.2,target⟩ := by
  rw [resolveDependency]
  by_cases missing : librariesByName.equalRange dependency.1 = []
  · rw [if_pos missing]
    refine iff_of_false (by simp) ?_
    rintro ⟨expression,target,-,found,-⟩
    rw [missing] at found
    cases found
  · rw [if_neg missing]
    cases parsed : expressionOf dependency.2 with
    | none => simp
    | some expression =>
        dsimp only
        cases found : bestMatch libraries expression (librariesByName.equalRange dependency.1) none with
        | none =>
            refine iff_of_false (by simp) ?_
            rintro ⟨expression',target,same,found',-⟩
            cases same
            cases found.symm.trans found'
        | some target =>
            constructor
            · rintro ⟨⟩
              exact ⟨expression,target,rfl,found,rfl⟩
            · rintro ⟨expression',target',same,found',rfl⟩
              cases same
              cases found.symm.trans found'
              rfl

def startingWith (index : Nat) (inside : index ∈ named libraries dependency.1) : LibrariesByName libraries where
  equalRange name := if name = dependency.1 then index :: (named libraries name).erase index else named libraries name
  perm name := by
    split_ifs with same
    · rw [same]
      exact (List.perm_cons_erase inside).symm
    · exact .refl _

theorem resolve_startingWith (satisfying : Satisfying libraries dependency index)
    (greatest : ∀ other,Satisfying libraries dependency other →
      isBetter (libraryAt libraries index) (libraryAt libraries other) = false) :
    ∃ resolved,resolveDependency libraries (startingWith index satisfying.1) 0 dependency = .ok resolved ∧ resolved.target = index := by
  obtain ⟨inside,expression,parsed,accepted⟩ := satisfying
  refine ⟨_,resolveDependency_iff.mpr ⟨expression,index,parsed,?_,rfl⟩,rfl⟩
  change bestMatch libraries expression (if dependency.1 = dependency.1 then _ else _) none = _
  rw [if_pos rfl,bestMatch,if_pos accepted]
  apply bestMatch_kept
  intro candidate member accepted'
  exact greatest candidate ⟨List.mem_of_mem_erase member,expression,parsed,accepted'⟩

theorem resolve_versioned (satisfying : Satisfying libraries dependency index)
    (versioned : (versionOf (libraryAt libraries index)).isSome = true)
    (done : resolveDependency libraries (startingWith index satisfying.1) 0 dependency = .ok resolved) :
    (versionOf (libraryAt libraries resolved.target)).isSome = true := by
  obtain ⟨inside,expression,parsed,accepted⟩ := satisfying
  obtain ⟨expression',target,parsed',found,rfl⟩ := resolveDependency_iff.mp done
  cases parsed.symm.trans parsed'
  change bestMatch libraries expression (if dependency.1 = dependency.1 then _ else _) none = _ at found
  rw [if_pos rfl,bestMatch,if_pos accepted] at found
  exact bestMatch_versioned versioned found

theorem isSome_of_readable (readable : ∀ text,¬Candidate libraries dependency (.error text))
    (satisfying : Satisfying libraries dependency index) : ∃ version,versionOf (libraryAt libraries index) = some version := by
  cases stated : statedVersion (libraryAt libraries index) with
  | error text => exact absurd (stated ▸ candidate_of_satisfying satisfying) (readable text)
  | ok version => exact ⟨version,statedVersion_ok.mp stated⟩

theorem resolve_greatest (readable : ∀ text,¬Candidate libraries dependency (.error text))

    (done : resolveDependency libraries librariesByName source dependency = .ok resolved) {other : Nat}
    (satisfying : Satisfying libraries dependency other) :
    isBetter (libraryAt libraries resolved.target) (libraryAt libraries other) = false := by
  obtain ⟨expression,target,parsed,found,rfl⟩ := resolveDependency_iff.mp done
  obtain ⟨inside,expression',parsed',accepted⟩ := satisfying
  cases parsed.symm.trans parsed'
  refine bestMatch_maximal ?_ found other (.inr ⟨(librariesByName.perm dependency.1).mem_iff.mpr inside,accepted⟩)
  rintro index (⟨⟨⟩⟩ | ⟨member,accepted'⟩)
  apply Option.ne_none_iff_exists'.mpr
  exact isSome_of_readable readable ⟨(librariesByName.perm dependency.1).mem_iff.mp member,expression,parsed,accepted'⟩

variable {version : SemanticVersion}

theorem resolve_isGreatest (readable : ∀ text,¬Candidate libraries dependency (.error text))

    (done : resolveDependency libraries librariesByName source dependency = .ok resolved)
    (known : versionOf (libraryAt libraries resolved.target) = some version) : Greatest libraries dependency version := by
  obtain ⟨-,-,satisfying⟩ := resolveDependency_sound done
  refine ⟨statedVersion_ok.mpr known ▸ candidate_of_satisfying satisfying,fun other candidate => ?_⟩
  obtain ⟨index,satisfying',known'⟩ := exists_satisfying candidate
  rw [← isBetter_of_versions known (statedVersion_ok.mp known')]
  exact resolve_greatest readable done satisfying'

theorem Greatest.of_perm (perm : libraries.Perm libraries')
    (greatest : Greatest libraries dependency version) : Greatest libraries' dependency version :=
  ⟨greatest.1.of_perm perm,fun other candidate => greatest.2 other (candidate.of_perm perm.symm)⟩

theorem SelectsGreatest.stated_eq (selects : SelectsGreatest libraries dependency) {first second : LibraryDependency}
    {librariesByName librariesByName' : LibrariesByName libraries}
    (done : resolveDependency libraries librariesByName 0 dependency = .ok first)
    (done' : resolveDependency libraries librariesByName' 0 dependency = .ok second) :
    statedVersion (libraryAt libraries first.target) = statedVersion (libraryAt libraries second.target) := by
  obtain ⟨second',again,same⟩ := selects.independent libraries (.refl _) librariesByName librariesByName' 0 0 first done
  cases done'.symm.trans again
  exact (Prod.mk.inj same).2.symm

/-- A candidate that cannot be read and stands first is chosen. -/
theorem resolve_unreadable {text : String} (candidate : Candidate libraries dependency (.error text)) :
    ∃ (librariesByName : LibrariesByName libraries) (resolved : LibraryDependency),
      resolveDependency libraries librariesByName 0 dependency = .ok resolved ∧
        statedVersion (libraryAt libraries resolved.target) = .error text := by
  obtain ⟨index,satisfying,stated⟩ := exists_satisfying candidate
  obtain ⟨resolved,done,rfl⟩ := resolve_startingWith satisfying fun _ _ => by rw [isBetter,statedVersion_error stated]
  exact ⟨_,resolved,done,stated⟩

theorem resolve_first (greatest : Greatest libraries dependency version) :
    ∃ (librariesByName : LibrariesByName libraries) (resolved : LibraryDependency),
      resolveDependency libraries librariesByName 0 dependency = .ok resolved ∧
        statedVersion (libraryAt libraries resolved.target) = .ok version := by
  obtain ⟨index,satisfying,stated⟩ := exists_satisfying greatest.1
  have known := statedVersion_ok.mp stated
  obtain ⟨resolved,done,rfl⟩ := resolve_startingWith satisfying fun other satisfying' => by
    cases known' : versionOf (libraryAt libraries other) with
    | none => rw [isBetter,known,known']
    | some version' =>
        rw [isBetter_of_versions known known']
        exact greatest.2 version' (statedVersion_ok.mpr known' ▸ candidate_of_satisfying satisfying')
  exact ⟨_,resolved,done,stated⟩

theorem SelectsGreatest.unambiguous (selects : SelectsGreatest libraries dependency) : Unambiguous libraries dependency := by
  by_cases readable : ∀ text,¬Candidate libraries dependency (.error text)
  · refine .inr ⟨readable,fun version other greatest greatest' => ?_⟩
    obtain ⟨_,first,done,stated⟩ := resolve_first greatest
    obtain ⟨_,second,done',stated'⟩ := resolve_first greatest'
    have same := selects.stated_eq done done'
    rw [stated,stated'] at same
    exact Except.ok.inj same
  · push Not at readable
    obtain ⟨text,candidate⟩ := readable
    obtain ⟨_,first,done,stated⟩ := resolve_unreadable candidate
    refine .inl ⟨text,fun version other => ?_⟩
    cases version with
    | error text' =>
        obtain ⟨_,second,done',stated'⟩ := resolve_unreadable other
        rw [← stated,← stated',selects.stated_eq done done']
    | ok version =>
        obtain ⟨index,satisfying,stated'⟩ := exists_satisfying other
        have versioned := Option.isSome_of_mem (statedVersion_ok.mp stated')
        obtain ⟨second,done'⟩ := @resolveDependency_complete _ (startingWith index satisfying.1) 0 _ _ satisfying
        have some := resolve_versioned satisfying versioned done'
        rw [statedVersion_error ((selects.stated_eq done done').symm.trans stated)] at some
        cases some

theorem Unambiguous.selectsGreatest (unambiguous : Unambiguous libraries dependency) : SelectsGreatest libraries dependency := by
  constructor
  · intro librariesByName source resolved done
    obtain ⟨-,-,satisfying⟩ := resolveDependency_sound done
    refine ⟨(libraryAt_mem satisfying.1).2.2,satisfying,fun other satisfying' => ?_⟩
    obtain ⟨text,unread⟩ | ⟨readable,-⟩ := unambiguous
    · rw [isBetter,statedVersion_error (unread _ (candidate_of_satisfying satisfying))]
    · exact resolve_greatest readable done satisfying'
  · intro libraries' perm librariesByName librariesByName' source source' resolved done
    obtain ⟨-,-,satisfying⟩ := resolveDependency_sound done
    have candidate := candidate_of_satisfying satisfying
    obtain ⟨index,satisfying',-⟩ := exists_satisfying (candidate.of_perm perm)
    obtain ⟨resolved',done'⟩ := @resolveDependency_complete _ librariesByName' source' _ _ satisfying'
    obtain ⟨-,-,satisfying''⟩ := resolveDependency_sound done'
    have candidate' := (candidate_of_satisfying satisfying'').of_perm perm.symm
    refine ⟨resolved',done',Prod.ext ((libraryAt_mem satisfying''.1).2.2.trans (libraryAt_mem satisfying.1).2.2.symm) ?_⟩
    change statedVersion (libraryAt libraries' resolved'.target) = statedVersion (libraryAt libraries resolved.target)
    obtain ⟨text,unread⟩ | ⟨readable,unique⟩ := unambiguous
    · rw [unread _ candidate,unread _ candidate']
    · have readable' : ∀ text,¬Candidate libraries' dependency (.error text) :=
        fun text candidate => readable text (candidate.of_perm perm.symm)
      obtain ⟨version,known⟩ := isSome_of_readable readable satisfying
      obtain ⟨version',known'⟩ := isSome_of_readable readable' satisfying''
      have greatest := resolve_isGreatest readable done known
      have greatest' := resolve_isGreatest readable' done' known'
      rw [statedVersion_ok.mpr known,statedVersion_ok.mpr known',unique _ _ greatest (greatest'.of_perm perm.symm)]

end Candidates

/-- A dependency gets the greatest version that satisfies it, the same one in every order, exactly if the candidates leave no choice. -/
theorem selectsGreatest_iff (libraries : List ResolvedLibrary) (dependency : String × String) :
    SelectsGreatest libraries dependency ↔ Unambiguous libraries dependency :=
  ⟨SelectsGreatest.unambiguous,Unambiguous.selectsGreatest⟩

def unreadableLibraries : List ResolvedLibrary := [⟨"a.lib","a","1.0.0",[]⟩,⟨"b.lib","a","latest",[]⟩]

/-- Whatever stands first is chosen for any version. -/
theorem not_selectsGreatest : ¬SelectsGreatest unreadableLibraries ("a","*") := by
  intro selects
  have first : Candidate unreadableLibraries ("a","*") (.ok ⟨1,0,0,[]⟩) :=
    ⟨_,List.mem_cons_self,⟨by decide,rfl⟩,rfl,none,if_pos rfl,rfl⟩
  have second : Candidate unreadableLibraries ("a","*") (.error "latest") :=
    ⟨_,List.mem_cons_of_mem _ List.mem_cons_self,⟨by decide,rfl⟩,rfl,none,if_pos rfl,rfl⟩
  obtain ⟨text,unread⟩ | ⟨readable,-⟩ := selects.unambiguous
  · cases unread _ first
  · exact readable _ second

end ShardScript.Libraries
