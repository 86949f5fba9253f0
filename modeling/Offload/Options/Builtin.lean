import Offload.Options.Table

/-! # The built-in options

The options every installation knows, values first and switches after them. Each is given on the
command line by a flag that starts with `--acpp-`, in the environment by a variable that starts with
`ACPP_`, and in the configuration files by a key that starts with `default-`.
-/

namespace Offload.Options

namespace Builtin

/-- Help text of several lines. -/
def lines (texts : List String) : String :=
  "\n".intercalate texts

/-- An option that takes a value. -/
def valued (key flag envName configKey description : String) : Entry :=
  ⟨key, flag, envName, configKey, description, false, none⟩

/-- The option with a value for when nothing sets it. -/
def withDefault (entry : Entry) (value : String) : Entry :=
  { entry with default? := some value }

/-- An option that is on or off. -/
def switch (key flag envName configKey description : String) : Entry :=
  ⟨key, flag, envName, configKey, description, true, none⟩

def platform : Entry :=
  valued "platform" "--acpp-platform" "ACPP_PLATFORM" "default-platform"
    (lines [
      "(deprecated) The platform that AdaptiveCpp should target. Valid values:",
      "* cuda: Target NVIDIA CUDA GPUs",
      "* rocm: Target AMD GPUs running on the ROCm platform",
      "* cpu: Target only CPUs"])

def clang : Entry :=
  valued "clang" "--acpp-clang" "ACPP_CLANG" "default-clang"
    (lines [
      "The path to the clang executable that should be used for compilation",
      "(Note: *must* be compatible with the clang version that the",
      "AdaptiveCpp clang plugin was compiled against!)"])

def nvcxx : Entry :=
  valued "nvcxx" "--acpp-nvcxx" "ACPP_NVCXX" "default-nvcxx"
    (lines [
      "The path to the nvc++ executable that should be used for compilation",
      "with the cuda-nvcxx backend."])

def cudaPath : Entry :=
  valued "cuda-path" "--acpp-cuda-path" "ACPP_CUDA_PATH" "default-cuda-path"
    "The path to the CUDA toolkit installation directory"

def rocmPath : Entry :=
  valued "rocm-path" "--acpp-rocm-path" "ACPP_ROCM_PATH" "default-rocm-path"
    "The path to the ROCm installation directory"

def gpuArch : Entry :=
  valued "gpu-arch" "--acpp-gpu-arch" "ACPP_GPU_ARCH" "default-gpu-arch"
    (lines [
      "(deprecated) The GPU architecture that should be targeted when compiling for GPUs.",
      "For CUDA, the architecture has the form sm_XX, e.g. sm_60 for Pascal.",
      "For ROCm, the architecture has the form gfxYYY, e.g. gfx900 for Vega 10, gfx906 for Vega 20."])

def cpuCompiler : Entry :=
  valued "cpu-compiler" "--acpp-cpu-cxx" "ACPP_CPU_CXX" "default-cpu-cxx"
    "The compiler that should be used when targeting only CPUs."

def clangIncludePath : Entry :=
  valued "clang-include-path" "--acpp-clang-include-path" "ACPP_CLANG_INCLUDE_PATH"
    "default-clang-include-path"
    (lines [
      "The path to clang's internal include headers. Typically of the form",
      "$PREFIX/include/clang/<version>/include. Only required by ROCm."])

def sequentialLinkLine : Entry :=
  valued "sequential-link-line" "--acpp-sequential-link-line" "ACPP_SEQUENTIAL_LINK_LINE"
    "default-sequential-link-line"
    "The arguments passed to the linker for the sequential backend"

def sequentialCxxFlags : Entry :=
  valued "sequential-cxx-flags" "--acpp-sequential-cxx-flags" "ACPP_SEQUENTIAL_CXX_FLAGS"
    "default-sequential-cxx-flags"
    "The arguments passed to the compiler to compile for the sequential backend"

def ompLinkLine : Entry :=
  valued "omp-link-line" "--acpp-omp-link-line" "ACPP_OMP_LINK_LINE" "default-omp-link-line"
    "The arguments passed to the linker for the OpenMP backend."

def ompCxxFlags : Entry :=
  valued "omp-cxx-flags" "--acpp-omp-cxx-flags" "ACPP_OMP_CXX_FLAGS" "default-omp-cxx-flags"
    "The arguments passed to the compiler to compile for the OpenMP backend"

def rocmLinkLine : Entry :=
  valued "rocm-link-line" "--acpp-rocm-link-line" "ACPP_ROCM_LINK_LINE" "default-rocm-link-line"
    "The arguments passed to the linker for the ROCm backend."

def rocmCxxFlags : Entry :=
  valued "rocm-cxx-flags" "--acpp-rocm-cxx-flags" "ACPP_ROCM_CXX_FLAGS" "default-rocm-cxx-flags"
    "The arguments passed to the compiler to compile for the ROCm backend"

def cudaLinkLine : Entry :=
  valued "cuda-link-line" "--acpp-cuda-link-line" "ACPP_CUDA_LINK_LINE" "default-cuda-link-line"
    "The arguments passed to the linker for the CUDA backend."

def cudaCxxFlags : Entry :=
  valued "cuda-cxx-flags" "--acpp-cuda-cxx-flags" "ACPP_CUDA_CXX_FLAGS" "default-cuda-cxx-flags"
    "The arguments passed to the compiler to compile for the CUDA backend"

def configFileDir : Entry :=
  valued "config-file-dir" "--acpp-config-file-dir" "ACPP_CONFIG_FILE_DIR" "default-config-file-dir"
    (lines [
      "Select an alternative path for the config files containing the default AdaptiveCpp",
      "settings. It is normally not necessary for the user to change this setting."])

def targets : Entry :=
  withDefault (valued "targets" "--acpp-targets" "ACPP_TARGETS" "default-targets"
    (lines [
      "Specify backends and targets to compile for. Example: --acpp-targets='omp;hip:gfx900,gfx906'",
      "  Available backends:",
      "    * omp - OpenMP CPU backend",
      "             Backend Flavors:",
      "             - omp.library-only: Works with any OpenMP enabled CPU compiler.",
      "                                 Uses Boost.Fiber for nd_range parallel_for support.",
      "             - omp.accelerated: Uses clang as host compiler to enable compiler support",
      "                                for nd_range parallel_for (see --acpp-use-accelerated-cpu).",
      "    * cuda - CUDA backend",
      "             Requires specification of targets of the form sm_XY,",
      "             e.g. sm_70 for Volta, sm_60 for Pascal",
      "             Backend Flavors:",
      "             - cuda.explicit-multipass: CUDA backend in explicit multipass mode",
      "                                        (see --acpp-explicit-multipass)",
      "             - cuda.integrated-multipass: Force CUDA backend to operate in integrated",
      "                                          multipass mode.",
      "    * cuda-nvcxx - CUDA backend with nvc++. Target specification is optional;",
      "             if given requires the format ccXY.",
      "    * hip  - HIP backend",
      "             Requires specification of targets of the form gfxXYZ,",
      "             e.g. gfx906 for Vega 20, gfx900 for Vega 10",
      "             Backend Flavors:",
      "             - hip.explicit-multipass: HIP backend in explicit multipass mode",
      "                                       (see --acpp-explicit-multipass)",
      "             - hip.integrated-multipass: Force HIP backend to operate in integrated",
      "                                         multipass mode.",
      "    * generic - use generic LLVM SSCP compilation flow, and JIT at runtime to target device"])) "generic"

def stdparPrefetchMode : Entry :=
  withDefault (valued "stdpar-prefetch-mode" "--acpp-stdpar-prefetch-mode" "ACPP_STDPAR_PREFETCH_MODE"
    "default-stdpar-prefetch-mode"
    (lines [
      "AdaptiveCpp supports issuing automatic USM prefetch operations for allocations used inside",
      "offloaded C++ PSTL algorithms. This flag determines the strategy for submitting such prefetches.",
      "  Supported values are:",
      "    * always      - Prefetches every allocation used by every stdpar kernel",
      "    * never       - Disables prefetching",
      "    * after-sync  - Prefetch all allocations used by the first kernel submitted after each",
      "                    synchronization point. (Prefetches running on non-idling queues can be expensive!)",
      "    * first       - Prefetch allocations only the very first time they are used in a kernel",
      "    * auto        - Let AdaptiveCpp decide (default)"])) "auto"

def useAcceleratedCpu : Entry :=
  switch "use-accelerated-cpu" "--acpp-use-accelerated-cpu" "ACPP_USE_ACCELERATED_CPU"
    "default-use-accelerated-cpu"
    (lines [
      "If set, Clang is used for host compilation and explicit compiler support",
      "is enabled for accelerating the nd-range parallel_for on CPU.",
      "Uses continuation-based synchronization to execute all work-items",
      "of a work-group in a single thread, eliminating scheduling overhead",
      "and enabling enhanced vectorization opportunities compared to the fiber variant."])

def isDryrun : Entry :=
  switch "is-dryrun" "--acpp-dryrun" "ACPP_DRYRUN" "default-is-dryrun"
    (lines [
      "If set, only shows compilation commands that would be executed,",
      "but does not actually execute it."])

def isExplicitMultipass : Entry :=
  switch "is-explicit-multipass" "--acpp-explicit-multipass" "ACPP_EXPLICIT_MULTIPASS"
    "default-is-explicit-multipass"
    (lines [
      "If set, executes device passes as separate compiler invocation and lets AdaptiveCpp",
      "control embedding device images into the host binary. This allows targeting multiple",
      "backends simultaneously that might otherwise be incompatible. In this mode, source code",
      "level interoperability may not be supported in the host pass."])

def shouldSaveTemps : Entry :=
  switch "should-save-temps" "--acpp-save-temps" "ACPP_SAVE_TEMPS" "default-save-temps"
    "If set, do not delete temporary files created during compilation."

def stdpar : Entry :=
  switch "stdpar" "--acpp-stdpar" "ACPP_STDPAR" "default-is-stdpar"
    "If set, enables SYCL offloading of C++ standard parallel algorithms."

def stdparSystemUsm : Entry :=
  switch "stdpar-system-usm" "--acpp-stdpar-system-usm" "ACPP_STDPAR_SYSTEM_USM"
    "default-is-stdpar-system-usm"
    (lines [
      "If set, assume availability of system-level unified shared memory where every pointer",
      "from regular malloc() is accessible on GPU. This disables automatic hijacking of memory",
      "allocations at the compiler level by AdaptiveCpp."])

def stdparUnconditionalOffload : Entry :=
  switch "stdpar-unconditional-offload" "--acpp-stdpar-unconditional-offload"
    "ACPP_STDPAR_UNCONDITIONAL_OFFLOAD" "default-is-stdpar-unconditional-offload"
    (lines [
      "Normally, heuristics are employed to determine whether algorithms should be offloaded.",
      "If this flag is set, supported parallel STL algorithms will be offloaded unconditionally."])

def isExportAll : Entry :=
  switch "is-export-all" "--acpp-export-all" "ACPP_EXPORT_ALL" "default-export-all"
    (lines [
      "(Experimental) Treat all functions implicitly as SYCL_EXTERNAL. Only supported with",
      "the generic target."])

end Builtin

open Builtin in
/-- The table of the built-in options. -/
def Table.builtin : Table := [
    platform, clang, nvcxx, cudaPath, rocmPath, gpuArch, cpuCompiler, clangIncludePath,
    sequentialLinkLine, sequentialCxxFlags, ompLinkLine, ompCxxFlags, rocmLinkLine,
    rocmCxxFlags, cudaLinkLine, cudaCxxFlags, configFileDir, targets, stdparPrefetchMode,
    useAcceleratedCpu, isDryrun, isExplicitMultipass, shouldSaveTemps, stdpar, stdparSystemUsm,
    stdparUnconditionalOffload, isExportAll]

end Offload.Options
