/-!
# The configuration template

The configuration file that a new project starts with. It spells out every default.
-/
namespace CostGate.Template

def lines : List String :=
  [
    "# archgate configuration",
    "#",
    "# Every value below is the built-in default; delete what you don't change.",
    "",
    "# Threshold multiplier for branches no [[branches]] rule matches",
    "default_branch_multiplier = 1.3",
    "",
    "# base_cost = lines*loc + complexity*cx + dependency*deps + function*fns + include*inc",
    "[weights]",
    "lines = 0.001",
    "complexity = 0.01",
    "dependency = 0.02",
    "function = 0.005",
    "include = 0.0",
    "",
    "# Include complexity per relative (../), deep (>3 segments) or namespaced include",
    "[includes]",
    "relative = 1.0",
    "deep = 0.5",
    "namespaced = 0.25",
    "",
    "# final_cost = base_cost * file type multiplier * phase multiplier",
    "[file_types]",
    "implementation = 1.0",
    "test = 0.6",
    "header = 0.4",
    "",
    "[phases]",
    "design = 0.8",
    "implementation = 1.0",
    "validation = 0.7",
    "deployment = 0.9",
    "",
    "# Base governance threshold per environment",
    "[thresholds]",
    "development = 0.8",
    "test = 0.7",
    "ci = 0.6",
    "production = 0.5",
    "",
    "[limits]",
    "# Costs at or below this are autonomous",
    "autonomous = 0.5",
    "# Violation ratio (cost / threshold) for critical and emergency severity",
    "critical_multiplier = 1.5",
    "emergency_multiplier = 2.0",
    "# Emergency action when this many critical/emergency violations exist...",
    "emergency_count = 5",
    "# ...or when this percentage of components violate",
    "emergency_percentage = 15.0",
    "",
    "# Branch multipliers, first matching pattern wins",
    "[[branches]]",
    "pattern = \"^(main|master)$\"",
    "multiplier = 1.0",
    "",
    "[[branches]]",
    "pattern = \"^(release|hotfix)([/-].*)?$\"",
    "multiplier = 1.0",
    "",
    "[[branches]]",
    "pattern = \"^(develop|development|dev)$\"",
    "multiplier = 1.2",
    "",
    "[[branches]]",
    "pattern = \"^(staging|stage)$\"",
    "multiplier = 1.1",
    "",
    "[[branches]]",
    "pattern = \"^(feature|feat|bugfix|fix)[/-].+\"",
    "multiplier = 1.7",
    "",
    "[exclude]",
    "# Extra paths to skip, relative to the project root",
    "paths = []",
    "# Set to true to drop the built-in vendor/build exclusions",
    "skip_defaults = false",
    "",
    "[report]",
    "# Violations detailed in the console report",
    "top = 10"
  ]

def text : String := String.join (lines.map fun l => l ++ "\n")

end CostGate.Template
