import ReliableDatagram.EventLog
/-!
# A standard host

One host the event log can be installed on, given as data: a virtual machine running a Debian
system with a merged `/usr` and a compiler toolchain, its root on an `ext4` disk. The kernel
supplies `/dev`, `/proc` and `/sys`; the rest is the system's own tree. The log operations take
any `Host`; nothing proved about them depends on this one.

Each part of the tree is listed by the directory it lies in, so that the lists read like the
directories they describe. Links are listed separately, with what they stand for.
-/

namespace ReliableDatagram

namespace EventLog

namespace Standard

/-- The paths of `names` inside `dir`. -/
def under (dir : String) (names : List String) : List String :=
  names.map fun n ↦ dir ++ "/" ++ n

/-- The numbered names `pre0`, …, `pre(k-1)`. -/
def numbered (pre : String) (k : Nat) : List String :=
  (List.range k).map fun i ↦ pre ++ toString i

/-- The top of the tree. -/
def rootDirectories : List String :=
  ["/"] ++ under "" ["boot", "dev", "etc", "home", "lost+found", "media", "mnt", "opt", "proc",
    "root", "run", "srv", "sys", "tmp", "usr", "var"]

/-- The device tree: block and character devices are files, and `/dev/pts` is a separate tree
that creates nothing. -/
def devDirectories : List String :=
  under "/dev" (["cpu", "net", "pts", "shm"] ++ numbered "cpu/" 4)

/-- The devices. -/
def devFiles : List String :=
  under "/dev" (["autofs", "btrfs-control", "console", "cpu_dma_latency", "full", "fuse",
    "hwrng", "kmsg", "kvm", "loop-control", "null", "ptmx", "random", "tty", "ttyS0",
    "urandom", "userfaultfd", "vcs", "vcs1", "vcsa", "vcsa1", "vcsu", "vcsu1", "vda", "vdb",
    "vga_arbiter", "vsock", "zero", "zram0", "net/tun"] ++ numbered "loop" 8 ++
    numbered "tty" 64)

/-- The process tree. `/proc/self` is the reading process, with its open descriptors. -/
def procDirectories : List String :=
  under "/proc" ["acpi", "bus", "driver", "fs", "irq", "pressure", "sys", "sysvipc", "tty",
    "self", "1"] ++
  under "/proc/self" ["attr", "fd", "fdinfo", "map_files", "net", "ns", "task"] ++
  under "/proc/sys" ["abi", "debug", "dev", "fs", "kernel", "net", "user", "vm"]

/-- The kernel's reports, and those about the reading process. -/
def procFiles : List String :=
  under "/proc" ["buddyinfo", "cgroups", "cmdline", "config.gz", "consoles", "cpuinfo",
    "crypto", "devices", "diskstats", "dma", "execdomains", "filesystems", "interrupts",
    "iomem", "ioports", "kallsyms", "key-users", "keys", "kmsg", "kpagecgroup", "kpagecount",
    "kpageflags", "loadavg", "locks", "meminfo", "misc", "mtrr", "pagetypeinfo", "partitions",
    "slabinfo", "softirqs", "stat", "swaps", "timer_list", "uptime", "version", "vmallocinfo",
    "vmstat", "zoneinfo"] ++
  under "/proc/self" ["arch_status", "autogroup", "auxv", "cgroup", "clear_refs", "cmdline",
    "comm", "coredump_filter", "cpuset", "environ", "exe", "gid_map", "io",
    "ksm_merging_pages", "ksm_stat", "limits", "loginuid", "maps", "mem", "mountinfo", "mounts",
    "mountstats", "numa_maps", "oom_adj", "oom_score", "oom_score_adj", "pagemap",
    "personality", "projid_map", "sched", "schedstat", "sessionid", "setgroups", "smaps",
    "smaps_rollup", "stack", "stat", "statm", "status", "syscall", "timens_offsets", "timers",
    "timerslack_ns", "uid_map", "wchan", "fd/0", "fd/1", "fd/2"] ++
  under "/proc/self/net" ["anycast6", "arp", "dev", "dev_mcast", "fib_trie", "icmp", "icmp6",
    "if_inet6", "igmp", "igmp6", "ipv6_route", "netlink", "netstat", "packet", "protocols",
    "psched", "ptype", "raw", "raw6", "route", "snmp", "snmp6", "sockstat", "sockstat6",
    "softnet_stat", "tcp", "tcp6", "udp", "udp6", "udplite", "udplite6", "unix"]

/-- The kernel's object tree. -/
def sysDirectories : List String :=
  under "/sys" ["block", "bus", "class", "dev", "devices", "firmware", "fs", "kernel",
    "module", "power"] ++
  under "/sys/fs" ["bpf", "btrfs", "cgroup", "erofs", "ext4", "fuse", "pstore", "tmpfs", "xfs"] ++
  under "/sys/kernel" ["boot_params", "btf", "cgroup", "debug", "iommu_groups", "irq", "mm",
    "reboot", "security", "slab", "software_nodes", "tracing"]

/-- The kernel's settings. -/
def sysFiles : List String :=
  under "/sys/kernel" ["address_bits", "cpu_byteorder", "fscaps", "hardlockup_count", "notes",
    "oops_count", "profiling", "rcu_expedited", "rcu_normal", "rcu_stall_count",
    "softlockup_count", "uevent_seqnum", "vmcoreinfo", "warn_count"]

/-- The system's configuration. -/
def etcDirectories : List String :=
  under "/etc" ["X11", "alternatives", "apt", "bash_completion.d", "ca-certificates",
    "cron.d", "cron.daily", "default", "dpkg", "fonts", "gss", "init.d", "kernel",
    "ld.so.conf.d", "ldap", "logrotate.d", "opt", "pam.d", "perl", "profile.d", "python3",
    "python3.11", "rc0.d", "rc1.d", "rc2.d", "rc3.d", "rc4.d", "rc5.d", "rc6.d", "rcS.d",
    "security", "selinux", "skel", "ssh", "ssl", "systemd", "terminfo", "update-motd.d", "xdg",
    "apt/apt.conf.d", "apt/auth.conf.d", "apt/keyrings", "apt/preferences.d",
    "apt/sources.list.d", "apt/trusted.gpg.d", "dpkg/dpkg.cfg.d", "dpkg/origins",
    "kernel/postinst.d", "kernel/postrm.d", "ssl/certs", "ssl/private", "systemd/system"]

/-- The configuration files. -/
def etcFiles : List String :=
  under "/etc" ["adduser.conf", "bash.bashrc", "bindresvport.blacklist", "ca-certificates.conf",
    "debconf.conf", "debian_version", "deluser.conf", "environment", "fstab", "gai.conf", "group",
    "gshadow", "host.conf", "hostname", "hosts", "inputrc", "issue", "issue.net", "ld.so.cache",
    "ld.so.conf", "localtime", "login.defs", "logrotate.conf", "mailcap", "mime.types",
    "mke2fs.conf", "motd", "networks", "nsswitch.conf", "pam.conf", "passwd", "profile",
    "protocols", "resolv.conf", "rpc", "services", "shadow", "shells", "subgid", "subuid",
    "timezone", "wgetrc", "xattr.conf", "apt/sources.list.d/debian.sources"]

/-- Programs, libraries and shared data. -/
def usrDirectories : List String :=
  under "/usr" ["bin", "games", "include", "lib", "lib64", "libexec", "local", "sbin", "share",
    "src"] ++
  under "/usr/lib" ["apt", "dpkg", "gcc", "git-core", "locale", "mime", "python3",
    "python3.11", "ssl", "systemd", "x86_64-linux-gnu"] ++
  under "/usr/local" ["bin", "cargo", "etc", "games", "include", "lib", "rustup", "sbin",
    "share", "src", "cargo/bin", "cargo/registry", "rustup/downloads", "rustup/tmp",
    "rustup/toolchains", "rustup/update-hashes"] ++
  under "/usr/share" ["X11", "bash-completion", "ca-certificates", "common-licenses",
    "debconf", "dict", "doc", "gcc", "git-core", "i18n", "icons", "info", "keyrings", "lintian",
    "locale", "man", "menu", "mime", "misc", "perl", "perl5", "pixmaps", "pkgconfig", "python3",
    "terminfo", "xml", "zoneinfo"] ++
  under "/usr/share/man" (numbered "man" 9 |>.drop 1)

/-- The programs, libraries and toolchain. -/
def usrFiles : List String :=
  under "/usr/bin" ["apt", "apt-get", "ar", "as", "awk", "base64", "bash", "bzip2", "c++",
    "cat", "cc", "chmod", "chown", "cmp", "convert", "cp", "cpp", "curl", "cut", "dash", "date",
    "df", "diff", "dpkg", "du", "echo", "env", "false", "file", "find", "g++", "g++-12", "gcc",
    "gcc-12", "getconf", "getent", "git", "gpg", "grep", "gzip", "head", "hg", "hostname",
    "iconv", "id", "identify", "kill", "ld", "ldd", "less", "ln", "locale", "login", "ls",
    "make", "mawk", "md5sum", "mkdir", "more", "mount", "mv", "newgrp", "openssl", "passwd",
    "patch", "perl", "pkg-config", "ps", "python3", "python3.11", "rm", "scp", "sed",
    "sha256sum", "sh", "sleep", "sort", "ssh", "stat", "su", "svn", "tail", "tar", "tee",
    "test", "top", "touch", "tr", "true", "uname", "uniq", "unzip", "wc", "wget", "which",
    "whoami", "x86_64-linux-gnu-gcc", "xargs", "xz", "yes"] ++
  under "/usr/sbin" ["adduser", "groupadd", "ldconfig", "nologin", "useradd"] ++
  under "/usr/lib" ["os-release"] ++
  under "/usr/lib/x86_64-linux-gnu" ["libc.so.6", "libm.so.6", "libstdc++.so.6",
    "ld-linux-x86-64.so.2"] ++
  under "/usr/lib64" ["ld-linux-x86-64.so.2"] ++
  under "/usr/local/cargo/bin" ["cargo", "cargo-clippy", "cargo-fmt", "clippy-driver",
    "rust-gdb", "rust-gdbgui", "rust-lldb", "rustc", "rustdoc", "rustfmt", "rustup"] ++
  under "/usr/local/rustup" ["settings.toml"]

/-- Variable data, and the home of the administrator. -/
def varDirectories : List String :=
  under "/var" ["backups", "cache", "lib", "local", "log", "mail", "opt", "spool", "tmp",
    "cache/apt", "cache/debconf", "cache/ldconfig", "lib/apt", "lib/dpkg", "lib/misc",
    "lib/pam", "lib/systemd", "lib/ucf", "log/apt"] ++
  under "/run" ["lock"]

/-- The administrator's shell settings. -/
def homeFiles : List String :=
  under "/root" [".bashrc", ".profile"]

end Standard

open Standard in
/-- The standard host, working in `/`, with its log already installed. The kernel's own trees
refuse new files: `/proc` finds no such name, `/sys` and `/dev/pts` deny it; neither `/proc`
nor `/sys` checks name lengths. -/
def Host.standard : Host where
  directories := rootDirectories ++ devDirectories ++ procDirectories ++ sysDirectories ++
    etcDirectories ++ usrDirectories ++ varDirectories
  files := devFiles ++ procFiles ++ sysFiles ++ etcFiles ++ usrFiles ++ homeFiles
  links := [("/bin", "/usr/bin"), ("/sbin", "/usr/sbin"), ("/lib", "/usr/lib"),
    ("/lib64", "/usr/lib64"), ("/var/run", "/run"), ("/var/lock", "/run/lock"),
    ("/var/spool/mail", "/var/mail"), ("/usr/local/man", "/usr/share/man"),
    ("/etc/os-release", "/usr/lib/os-release"), ("/dev/fd", "/proc/self/fd"),
    ("/dev/stdin", "/proc/self/fd/0"), ("/dev/stdout", "/proc/self/fd/1"),
    ("/dev/stderr", "/proc/self/fd/2"), ("/proc/thread-self", "/proc/self"),
    ("/proc/net", "/proc/self/net"), ("/proc/mounts", "/proc/self/mounts"),
    ("/proc/self/root", "/"), ("/proc/self/cwd", "/"), ("/proc/1/root", "/")]
  closed := [("/proc", .notFound), ("/sys", .permissionDenied), ("/dev/pts", .permissionDenied)]
  unchecked := ["/proc", "/sys"]
  workingDirectory := "/"
  installed := true

end EventLog

end ReliableDatagram
