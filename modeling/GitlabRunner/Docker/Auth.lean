import GitlabRunner.Golang

/-!
# Registry credentials for an image

`auth.ResolveConfigs` gathers registry credentials from three sources, in the order its
comment documents: the `DOCKER_AUTH_CONFIG` variable, the docker configuration of the home
directory, and the registry credentials of the job payload. It keeps, per registry key, the
entry of the first source that has the key (`lookup_resolveConfigs`).
`ResolveConfigForImage` then ranges over that map and returns the first entry whose key
`convertToHostname` maps to the image's index name.

The keys are the registries as each source spells them, while the comparison is on host
names. When only one key names the image's registry, every iteration order gives the same
entry, the one of the highest-precedence source (`resolveConfigForImage_of_unique`). When two
sources spell the registry differently, say `https://registry.gitlab.com` and
`registry.gitlab.com`, both keys stay in the map and Go's randomised map iteration picks
either: the job payload's credentials can win over `DOCKER_AUTH_CONFIG`
(`image_auth_depends_on_map_order`).

Reading and parsing the sources (`readConfigsFromReader` with the docker CLI's config file
parser, the credential stores and helpers, the home directory lookup) are left to their
results: the maps they return, or `none` where they fail. Go's iteration order of the resolved
map is an input too: any permutation of its entries.
-/

namespace GitlabRunner.Docker

/-! ## Sources -/

/-- `types.AuthConfig`, the fields the sources set. -/
structure AuthConfig where
  username : String
  password : String
  serverAddress : String
  deriving DecidableEq, Repr

/-- `RegistryInfo`: an auth configuration and the source it came from. -/
structure RegistryInfo where
  source : String
  authConfig : AuthConfig
  deriving DecidableEq, Repr

/-- `common.Credentials`, the fields `getBuildConfiguration` reads. -/
structure Credentials where
  typ : String
  url : String
  username : String
  password : String
  deriving DecidableEq, Repr

/-- `DefaultDockerRegistry`. -/
def defaultDockerRegistry : String := "docker.io"

/-- `authConfigSourceNameUserVariable`. -/
def authConfigSourceNameUserVariable : String := "$DOCKER_AUTH_CONFIG"

/-- `authConfigSourceNameJobPayload`. -/
def authConfigSourceNameJobPayload : String := "job payload (GitLab Registry)"

/-- A source's configurations by registry key, in the order Go iterates them; `none` is a nil
map. -/
abbrev Configs := Option (List (String × AuthConfig))

/-- `getUserConfiguration`, given what `readConfigsFromReader` parsed from `DOCKER_AUTH_CONFIG`
(`none` when it failed). -/
def getUserConfiguration (parsed : Configs) : String × Configs :=
  match parsed with
  | none => ("", none)
  | some configs => (authConfigSourceNameUserVariable, some configs)

/-- `getHomeDirConfiguration`, given the file `readDockerConfigsFromHomeDir` read and its
configurations (`none` when it failed). -/
def getHomeDirConfiguration (read : Option (String × List (String × AuthConfig))) :
    String × Configs :=
  match read with
  | none => ("", none)
  | some (sourceFile, configs) => (sourceFile, some configs)

/-- One credential of `getBuildConfiguration`'s loop: a registry credential is stored under
its URL. -/
def addCredentials (configs : List (String × AuthConfig)) (c : Credentials) :
    List (String × AuthConfig) :=
  if c.typ ≠ "registry" then configs else mapInsert c.url ⟨c.username, c.password, c.url⟩ configs

/-- `getBuildConfiguration`. -/
def getBuildConfiguration (credentials : List Credentials) : String × Configs :=
  (authConfigSourceNameJobPayload, some (credentials.foldl addCredentials []))

/-! ## `ResolveConfigs` -/

/-- One registry of a source: added under its key unless an earlier source has the key. -/
def addIfAbsent (source : String) (res : List (String × RegistryInfo))
    (entry : String × AuthConfig) : List (String × RegistryInfo) :=
  if (res.lookup entry.1).isSome then res else mapInsert entry.1 ⟨source, entry.2⟩ res

/-- One resolver of `ResolveConfigs`' loop. -/
def addSource (res : List (String × RegistryInfo)) (resolved : String × Configs) :
    List (String × RegistryInfo) :=
  (resolved.2.getD []).foldl (addIfAbsent resolved.1) res

/-- The three resolvers of `ResolveConfigs`, in order. -/
def resolvers (user : Configs) (home : Option (String × List (String × AuthConfig)))
    (credentials : List Credentials) : List (String × Configs) :=
  [getUserConfiguration user, getHomeDirConfiguration home, getBuildConfiguration credentials]

/-- `ResolveConfigs`: registry key to registry info. -/
def resolveConfigs (user : Configs) (home : Option (String × List (String × AuthConfig)))
    (credentials : List Credentials) : List (String × RegistryInfo) :=
  (resolvers user home credentials).foldl addSource []

/-! ## Host names -/

/-- `strings.SplitN(s, string(sep), 2)` on the characters of `s`: the part before the first
`sep`, and the rest after it if there is one. -/
def splitFirst (sep : Char) : List Char → List Char × Option (List Char)
  | [] => ([], none)
  | c :: cs => if c = sep then ([], some cs) else (c :: (splitFirst sep cs).1, (splitFirst sep cs).2)

/-- `strings.Replace(s, old, new, 1)` on characters, for a non-empty `old`. -/
def replaceFirst (old new : List Char) : List Char → List Char
  | [] => []
  | c :: cs => if old.isPrefixOf (c :: cs) then new ++ (c :: cs).drop old.length
    else c :: replaceFirst old new cs

/-- `"index." + DefaultDockerRegistry` is read as `DefaultDockerRegistry`. -/
def normalizeIndex (name : String) : String :=
  if name = "index." ++ defaultDockerRegistry then defaultDockerRegistry else name

/-- The index and remote names of `splitDockerImageName` before the `index.docker.io` rule. -/
def splitIndex (reposName : String) : String × String :=
  match splitFirst '/' reposName.data with
  | (_, none) => (defaultDockerRegistry, reposName)
  | (first, some rest) =>
    if '.' ∉ first ∧ ':' ∉ first ∧ String.mk first ≠ "localhost" then
      (defaultDockerRegistry, reposName)
    else (String.mk first, String.mk rest)

/-- `splitDockerImageName`: the index name and the remote name of an image. -/
def splitDockerImageName (reposName : String) : String × String :=
  (normalizeIndex (splitIndex reposName).1, (splitIndex reposName).2)

/-- The URL with a leading `http://` or `https://` removed, as `convertToHostname` does. -/
def stripScheme (url : String) : String :=
  if hasPrefix url "http://" then String.mk (replaceFirst "http://".data [] url.data)
  else if hasPrefix url "https://" then String.mk (replaceFirst "https://".data [] url.data)
  else url

/-- `convertToHostname`. -/
def convertToHostname (url : String) : String :=
  normalizeIndex (String.mk (splitFirst '/' (stripScheme url).data).1)

/-! ## `ResolveConfigForImage` -/

/-- `RegistryInfo{}`. -/
def emptyInfo : RegistryInfo := ⟨"", ⟨"", "", ""⟩⟩

/-- The loop of `ResolveConfigForImage` over the map in its iteration order: the first entry
whose key names the index. -/
def findConfig (indexName : String) : List (String × RegistryInfo) → RegistryInfo
  | [] => emptyInfo
  | (registry, info) :: iter =>
    if indexName = convertToHostname registry then info else findConfig indexName iter

/-- `ResolveConfigForImage`, `range authConfigs` visiting the entries of `ResolveConfigs` in
the order `iter` (`ResolveConfigs` never returns a nil map, so the `nil` check never fires). -/
def resolveConfigForImage (imageName : String) (iter : List (String × RegistryInfo)) :
    RegistryInfo :=
  findConfig (splitDockerImageName imageName).1 iter

/-! ## Precedence per key -/

theorem lookup_foldl_addIfAbsent (source : String) (k : String)
    (configs : List (String × AuthConfig)) (res : List (String × RegistryInfo)) :
    (configs.foldl (addIfAbsent source) res).lookup k =
      (res.lookup k).or ((configs.lookup k).map (⟨source, ·⟩)) := by
  induction configs generalizing res with
  | nil => simp
  | cons e configs ih =>
    obtain ⟨k', v⟩ := e
    rw [List.foldl_cons, ih]
    by_cases hk : k' = k
    · subst hk
      cases hres : res.lookup k' <;> simp [addIfAbsent, hres]
    · have hne : (k == k') = false := beq_false_of_ne (Ne.symm hk)
      unfold addIfAbsent
      split <;> simp [List.lookup_cons, hne, lookup_mapInsert_ne _ _ (Ne.symm hk)]

theorem lookup_foldl_addSource (k : String) (l : List (String × Configs))
    (res : List (String × RegistryInfo)) :
    (l.foldl addSource res).lookup k =
      (res.lookup k).or (l.findSome? fun resolved =>
        ((resolved.2.getD []).lookup k).map (⟨resolved.1, ·⟩)) := by
  induction l generalizing res with
  | nil => simp
  | cons r l ih =>
    rw [List.foldl_cons, ih, addSource, lookup_foldl_addIfAbsent, List.findSome?_cons]
    cases res.lookup k <;> cases (r.2.getD []).lookup k <;> rfl

/-- The entry `ResolveConfigs` keeps under a key is that of the first source that has the
key. -/
theorem lookup_resolveConfigs (user : Configs) (home : Option (String × List (String × AuthConfig)))
    (credentials : List Credentials) (k : String) :
    (resolveConfigs user home credentials).lookup k =
      (resolvers user home credentials).findSome?
        fun resolved => ((resolved.2.getD []).lookup k).map (⟨resolved.1, ·⟩) :=
  lookup_foldl_addSource k _ []

/-! ## Sources of one job -/

/-- An image of the GitLab registry. -/
def gitlabRegistryImage : String := "registry.gitlab.com/group/project/app:latest"

/-- `DOCKER_AUTH_CONFIG` with a deploy token for `https://registry.gitlab.com`, as
`LoadFromReader` reads it: the entry's server address is its key. -/
def deployTokenConfig : Configs :=
  some [("https://registry.gitlab.com",
    ⟨"deploy-user", "deploy-token", "https://registry.gitlab.com"⟩)]

/-- The job payload's credentials for `registry.gitlab.com`. -/
def jobTokenCredentials : List Credentials :=
  [⟨"registry", "registry.gitlab.com", "gitlab-ci-token", "job-token"⟩]

/-- Job credentials for Docker Hub, under the name `index.docker.io`. -/
def dockerHubCredentials : List Credentials :=
  [⟨"registry", "index.docker.io", "hub-user", "hub-token"⟩]

/-! ## Iteration order -/

/-- The loop of `ResolveConfigForImage` returns the first entry of the iteration order whose
key names the index. -/
theorem findConfig_eq (indexName : String) (iter : List (String × RegistryInfo)) :
    findConfig indexName iter =
      (((iter.filter fun e => indexName = convertToHostname e.1).head?).map Prod.snd).getD
        emptyInfo := by
  induction iter with
  | nil => rfl
  | cons e iter ih =>
    obtain ⟨registry, info⟩ := e
    by_cases h : indexName = convertToHostname registry <;> simp [findConfig, h, ih]

/-- When at most one key of the map names the image's registry, every iteration order of the
map gives the same entry. -/
theorem resolveConfigForImage_of_unique (imageName : String)
    {res iter : List (String × RegistryInfo)} (hperm : iter.Perm res)
    (hunique : (res.filter fun e =>
      (splitDockerImageName imageName).1 = convertToHostname e.1).length ≤ 1) :
    resolveConfigForImage imageName iter = resolveConfigForImage imageName res := by
  simp only [resolveConfigForImage, findConfig_eq]
  have hfilter := hperm.filter fun e => (splitDockerImageName imageName).1 = convertToHostname e.1
  generalize res.filter _ = found at hfilter hunique
  match found, hunique with
  | [], _ => rw [hfilter.eq_nil]
  | [a], _ => rw [hfilter.eq_singleton]

/-- With a deploy token for the GitLab registry and job credentials for Docker Hub, the image
of the GitLab registry gets the deploy token in either order of the two entries. -/
theorem resolveConfigForImage_of_unique_sample :
    resolveConfigForImage gitlabRegistryImage
        (resolveConfigs deployTokenConfig none dockerHubCredentials).reverse =
      resolveConfigForImage gitlabRegistryImage
        (resolveConfigs deployTokenConfig none dockerHubCredentials) :=
  resolveConfigForImage_of_unique _ (List.reverse_perm _) (by decide)

/-! ## Two spellings of one registry -/

/-- With the deploy token in `DOCKER_AUTH_CONFIG` and the job token in the job payload, one
iteration order of the resolved map returns the deploy token and another the job token. -/
theorem image_auth_depends_on_map_order :
    ∃ iter, iter.Perm (resolveConfigs deployTokenConfig none jobTokenCredentials) ∧
      resolveConfigForImage gitlabRegistryImage
          (resolveConfigs deployTokenConfig none jobTokenCredentials) =
        ⟨authConfigSourceNameUserVariable,
          ⟨"deploy-user", "deploy-token", "https://registry.gitlab.com"⟩⟩ ∧
      resolveConfigForImage gitlabRegistryImage iter =
        ⟨authConfigSourceNameJobPayload, ⟨"gitlab-ci-token", "job-token", "registry.gitlab.com"⟩⟩ :=
  ⟨_, List.reverse_perm _, by decide, by decide⟩

end GitlabRunner.Docker
